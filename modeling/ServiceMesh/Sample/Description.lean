import ServiceMesh.Description
import ServiceMesh.Dispatcher
import ServiceMesh.Sample.Network
import ServiceMesh.Sample.Tagged

/-!
# Descriptions of sample services and networks

Codec registries, services with handlers of the catalogue, and plans of the network in memory, as
JSON values describe them.
-/

namespace ServiceMesh.Description

/-- Registers one codec. -/
def addCodec (registry : CodecRegistry) : Json → CodecRegistry
  | .str "data:json" => registry.registerData Codec.jsonData
  | .str "data:text" => registry.registerData Codec.textData
  | .str "header:json" => registry.registerHeaders (Codec.jsonHeaders .byKey)
  | .arr [.str "data", .str type, .str tag] => registry.registerData (Sample.taggedData type tag)
  | .arr [.str "header", .str type, .str tag] =>
    registry.registerHeaders (Sample.taggedHeaders type tag)
  | _ => registry

/-- The codecs of a list, or the standard ones. -/
def codecs : Json → CodecRegistry
  | .arr given => given.foldl addCodec .empty
  | _ => .withJson

/-- A message codec: its codecs, and the content type of its headers. -/
def messageCodec (registry headerFormat : Json) : MessageCodec :=
  ⟨codecs registry, (text? headerFormat).getD Codec.defaultType⟩

/-- A service: its tags, then its methods, then the tags of its methods. -/
def service [Sample.Scope] (value : Json) : Sample.Host :=
  let host : Sample.Host := .named (text (field "namespace" value))
  let host := (texts (field "tags" value)).entries.foldl
    (fun host tag => host.withTag tag.1 tag.2) host
  let host := (items (field "methods" value)).foldl (fun host method =>
    Sample.register host (text (argument method 0)) (text (argument method 1))) host
  (items (field "method_tags" value)).foldl (fun host tag =>
    host.withMethodTag (text (argument tag 0)) (text (argument tag 1)) (text (argument tag 2))) host

/-- A dispatcher of some services, if there are any and if they can be built. -/
def dispatcher? [Sample.Scope] (services registry : Json) : Option (Dispatcher Sample.Line) :=
  match services with
  | .arr described =>
    (Dispatcher.build (codecs registry) (described.map service)).toOption
  | _ => none

/-- A fault: a code and a text with a colon between them. -/
def fault? (value : Json) : Option CallError :=
  match (text value).splitOn ":" with
  | code :: rest@(_ :: _) =>
    code.toNat?.map (fun code => .ofCode (UInt16.ofNat code) (":".intercalate rest))
  | _ => none

/-- The behaviour of a peer. -/
def behaviour (value : Json) : Sample.Behaviour :=
  match text value, fault? value with
  | "mirror", _ => .mirror
  | _, some fault => .fault fault
  | _, none => .echo

/-- The plans of addresses. -/
def plans (value : Json) : Dict Sample.Plan :=
  Dict.ofList ((members value).map (fun entry =>
    (entry.1, ⟨(items (field "connect" entry.2)).map fault?, behaviour (field "behave" entry.2)⟩)))

end ServiceMesh.Description
