import ServiceMesh.Registry
/-!
# The directory of endpoints

A directory is a registry that many share.  A change makes a new registry out of the endpoints of the
current one and puts it in its place.  The registries that were current before stay as they are, for
those who hold a snapshot of them.
-/

namespace ServiceMesh

/-- A registry that was current at some time, told by the number of those before it. -/
structure Snapshot where
  /-- How many registries came before. -/
  number : Nat
  deriving DecidableEq, Repr

/-- A registry that many share. -/
structure Directory where
  /-- The registries that have been replaced, the oldest first. -/
  earlier : List Registry
  /-- The registry that has not been replaced. -/
  current : Registry

namespace Directory

/-- A directory that knows no endpoint. -/
def fresh : Directory := ⟨[], .empty⟩

/-- The current registry, to be kept. -/
def snapshot (directory : Directory) : Snapshot := ⟨directory.earlier.length⟩

/-- The registry of a snapshot. -/
def view? (directory : Directory) (snapshot : Snapshot) : Option Registry :=
  (directory.earlier ++ [directory.current])[snapshot.number]?

/-- Replaces the current registry by that of changed endpoints, if the change reports that it has
changed something. -/
def update (directory : Directory) (change : List Endpoint → Bool × List Endpoint) :
    Bool × Directory :=
  match change directory.current.endpoints with
  | (true, endpoints) =>
    (true, ⟨directory.earlier ++ [directory.current], .ofEndpoints endpoints⟩)
  | (false, _) => (false, directory)

/-- The directory after an announcement. -/
def register (directory : Directory) (endpoint : Endpoint) : Directory :=
  (directory.update (fun known => (true, Registry.announce endpoint known))).2

/-- The directory without one identity, and whether that was known. -/
def unregister (directory : Directory) (id : String) : Bool × Directory :=
  directory.update (fun known =>
    let others := known.filter (fun endpoint => endpoint.id ≠ id)
    (others.length != known.length, others))

/-- The directory after a reported change. -/
def apply (directory : Directory) : DiscoveryEvent → Directory
  | .added endpoint => directory.register endpoint
  | .removed id => (directory.unregister id).2

/-- The directory after a sequence of reported changes. -/
def listen (directory : Directory) (events : List DiscoveryEvent) : Directory :=
  events.foldl apply directory

end Directory

end ServiceMesh
