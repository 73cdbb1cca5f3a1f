import ComposeToPodman.Proofs.Compose.Names
import ComposeToPodman.Proofs.Compose.RoundTrip

/-! What the rules and the writers may rely on in every document that is read. -/
namespace ComposeToPodman.Compose

/-- A service that can be run: the names it uses are those of the document. -/
structure Service.Usable (d : Document) (s : Service) : Prop where
  name : MatchesName s.name
  image : s.image ≠ "" ∧ Text.trim s.image = s.image
  ports : ∀ p ∈ s.ports,
    (1 ≤ p.hostPort ∧ p.hostPort ≤ 65535) ∧ 1 ≤ p.containerPort ∧ p.containerPort ≤ 65535
  mounts : ∀ m ∈ s.mounts, m.source ≠ "" ∧ ∃ path, m.target.toList = '/' :: path
  dependencies : ∀ name ∈ s.dependsOn, ∃ t ∈ d.services, t.name = name
  networks : s.networks.Nodup ∧ ∀ name ∈ s.networks, name = "default" ∨ name ∈ d.networks.keys
  exclusive : s.networkMode ≠ none → s.networks = []
  joined : ∀ name, s.networkMode = some (.container name) → name ≠ ""

theorem PortMapping.InRange.bounds {p : PortMapping} (inRange : p.InRange) :
    (1 ≤ p.hostPort ∧ p.hostPort ≤ 65535) ∧ 1 ≤ p.containerPort ∧ p.containerPort ≤ 65535 :=
  ⟨inRange.host,inRange.container⟩

theorem Mount.Complete.absolute {m : Mount} (complete : m.Complete) :
    ∃ path, m.target.toList = '/' :: path := by
  have first : m.target.toList.head? = some '/' := by
    simpa [Text.startsWith] using complete.target
  exact List.head?_eq_some_iff.mp first

theorem Service.WellFormed.usable {d : Document} {s : Service}
    (wellFormed : s.WellFormed (d.services.map (·.name)) d.networks) : s.Usable d where
  name := (isName_iff s.name).mp wellFormed.name
  image := ⟨wellFormed.hasImage,wellFormed.image⟩
  ports p member := (wellFormed.ports p member).bounds
  mounts m member := ⟨(wellFormed.mounts m member).source,(wellFormed.mounts m member).absolute⟩
  dependencies name member := by
    obtain ⟨t,service,same⟩ := List.mem_map.mp (wellFormed.dependencies name member)
    exact ⟨t,service,same⟩
  networks :=
    ⟨wellFormed.distinct,fun name member => (wellFormed.known name member).imp_right
      Dict.contains_iff.mp⟩
  exclusive mode := wellFormed.exclusive (Option.isSome_iff_ne_none.mpr mode)
  joined name mode := (wellFormed.networkMode _ mode).named name rfl

/-- Whatever the forms in which a file is written, the document that is read has a service, all its
services are usable, all its names fit the pattern, and the services can be put in order. -/
theorem read_usable {text : String} {d : Document} {notices : List Notice}
    (read : Document.read text = .ok (d,notices)) :
    d.services ≠ [] ∧ (∀ s ∈ d.services, s.Usable d) ∧ (∀ key ∈ d.networks.keys, MatchesName key) ∧
      (∀ key ∈ d.volumes.keys, MatchesName key) ∧ ∃ order, d.startOrder = .ok order := by
  have wellFormed := wellFormed_of_read read
  refine ⟨wellFormed.nonempty,?_,?_,?_,wellFormed.ordered⟩
  · intro s member
    exact (wellFormed.services s member).usable
  · intro key member
    exact (isName_iff key).mp (wellFormed.networks key member)
  · intro key member
    exact (isName_iff key).mp (wellFormed.volumes key member)

/-- A number as a port, a long form of a mount, a network that is not declared, and networks beside a
network mode. -/
def shopText : String := "services:
  db:
    image: ' db '
    ports: [5432]
    volumes:
    - source: data
      target: /data
    networks: [back]
  web:
    image: web
    network_mode: service:db
    networks: [back]
    depends_on: [db]
"

def shop : Document :=
  { services := [
      { name := "db"
        image := "db"
        ports := [{ hostPort := 5432, containerPort := 5432 }]
        mounts := [{ source := "data", target := "/data", kind := .volume }]
        networks := ["default"] },
      { name := "web"
        image := "web"
        networkMode := some (.container "db")
        dependsOn := ["db"] }] }

theorem read_usable_shop :
    ∃ notices, Document.read shopText = .ok (shop,notices) ∧ notices ≠ [] ∧
      (∀ s ∈ shop.services, s.Usable shop) ∧ ∃ order, shop.startOrder = .ok order := by
  let notices : List Notice := [
    .inService "db" (.sameHostPort 5432),
    .undeclaredNetwork "db" "back",
    .inService "web" .networksWithMode]
  have read : Document.read shopText = .ok (shop,notices) := by decide +kernel
  obtain ⟨_,usable,_,_,ordered⟩ := read_usable read
  exact ⟨notices,read,List.cons_ne_nil _ _,usable,ordered⟩

end ComposeToPodman.Compose
