import ComposeToPodman.Options
import ComposeToPodman.Proofs.Compose.Mounts
import ComposeToPodman.Proofs.Compose.PortSpelling

/-! Ports and mounts in either form. Whatever settings a port or a mount has, its short form and its
long form are read alike, with the same notices. -/
namespace ComposeToPodman.Compose

open ShortPort (Address Denotes Numeral Spelling)

/-- What can be set for a port in either form. -/
structure PortSettings where
  container : Nat
  host : Option Nat := none
  address : Option Address := none
  protocol : Option String := none

namespace PortSettings

structure Valid (p : PortSettings) : Prop where
  container : 1 ≤ p.container ∧ p.container ≤ 65535
  host : ∀ n, p.host = some n → 1 ≤ n ∧ n ≤ 65535
  address : ∀ a, p.address = some a → a.WellFormed
  /-- In letters of either case. -/
  protocol : ∀ name, p.protocol = some name →
    ∃ known : Protocol, name.toList.map Char.toLower = known.text.toList

/-- The parts of the short form, with the numbers in their usual digits. -/
def spelling (p : PortSettings) : Spelling :=
  { address := p.address
    host := p.host.map (Nat.toDigits 10)
    container := Nat.toDigits 10 p.container
    letters := p.protocol.map String.toList }

/-- `[address:][host:]container[/protocol]`. -/
def short (p : PortSettings) : String := String.ofList p.spelling.text

/-- A host port is published as a number or in digits. -/
inductive Publishes : Form.Scalar → Nat → Prop
  | number (n : Nat) : Publishes (.int n) n
  | digits (denotes : Denotes digits n) : Publishes (.text (String.ofList digits)) n

/-- The long form, field by field. An address may keep its brackets there. -/
structure ToldBy (p : PortSettings) (long : Form.LongPort) : Prop where
  target : long.target = p.container
  published : Option.Rel Publishes long.published p.host
  hostIp : Option.Rel (fun (ip : String) (a : Address) => ip.toList = a.bare ∨ ip.toList = a.text)
    long.hostIp p.address
  protocol : long.protocol = p.protocol
  mode : long.mode = none

/-- Only a host port that is missing is noticed. -/
def notices (p : PortSettings) (service : String) : List Notice :=
  if p.host = none then [.inService service (.sameHostPort p.container)] else []

/-- The port that the settings ask for, over a protocol. -/
def mapping (p : PortSettings) (protocol : Protocol) : PortMapping :=
  { hostIp := p.address.map (String.ofList ·.bare)
    hostPort := p.host.getD p.container
    containerPort := p.container
    protocol }

theorem numeral_toDigits (n : Nat) : Numeral (Nat.toDigits 10 n) :=
  ShortPort.isNumeral_iff.mp (ShortPort.isNumeral_toDigits n)

theorem denotes_toDigits {n : Nat} (range : 1 ≤ n ∧ n ≤ 65535) : Denotes (Nat.toDigits 10 n) n :=
  (ShortPort.portNumber?_eq_some_iff (numeral_toDigits n)).mp (portNumber?_toDigits range)

theorem letter_of_toLower {c : Char} (lower : 'a' ≤ c.toLower ∧ c.toLower ≤ 'z') :
    'A' ≤ c ∧ c ≤ 'Z' ∨ 'a' ≤ c ∧ c ≤ 'z' := by
  by_cases upper : 'A' ≤ c ∧ c ≤ 'Z'
  · exact .inl upper
  · have same : c.toLower = c := dif_neg upper
    exact .inr (same ▸ lower)

theorem letters_of_protocol {l : List Char} {known : Protocol}
    (lower : l.map Char.toLower = known.text.toList) :
    l ≠ [] ∧ ∀ c ∈ l, 'A' ≤ c ∧ c ≤ 'Z' ∨ 'a' ≤ c ∧ c ≤ 'z' := by
  have letters : known.text.toList ≠ [] ∧ ∀ c ∈ known.text.toList, 'a' ≤ c ∧ c ≤ 'z' := by
    cases known <;> simp [Protocol.text]
  constructor
  · rintro rfl
    exact letters.1 lower.symm
  · intro c member
    exact letter_of_toLower (letters.2 _ (lower ▸ List.mem_map_of_mem member))

section Short

variable {p : PortSettings}

theorem Valid.wellFormed (valid : p.Valid) : p.spelling.WellFormed := by
  refine ⟨valid.address,?_,numeral_toDigits _,?_⟩
  · intro digits given
    obtain ⟨n,_,rfl⟩ := Option.map_eq_some_iff.mp given
    exact numeral_toDigits n
  · intro l given
    obtain ⟨name,told,rfl⟩ := Option.map_eq_some_iff.mp given
    obtain ⟨known,lower⟩ := valid.protocol name told
    exact letters_of_protocol lower

theorem Valid.means (valid : p.Valid) :
    ∃ known, protocolOr p.protocol = .ok known ∧ p.spelling.Means (p.mapping known) := by
  have host : p.spelling.host.elim (p.host.getD p.container = p.container)
      (Denotes · (p.host.getD p.container)) := by
    cases given : p.host with
    | none => simp [spelling,given]
    | some n => simpa [spelling,given] using denotes_toDigits (valid.host n given)
  have means (known : Protocol)
      (letters : p.spelling.letters.elim (known = .tcp) (·.map Char.toLower = known.text.toList)) :
      p.spelling.Means (p.mapping known) := ⟨rfl,denotes_toDigits valid.container,host,letters⟩
  cases given : p.protocol with
  | none => exact ⟨.tcp,rfl,means .tcp (by simp [spelling,given])⟩
  | some name =>
    obtain ⟨known,lower⟩ := valid.protocol name given
    have letters : p.spelling.letters = some name.toList := by simp [spelling,given]
    refine ⟨known,?_,means known (by simpa [letters] using lower)⟩
    have read : protocolOr ((some name.toList).map String.ofList) = .ok known :=
      ShortPort.protocolOr_eq_ok_iff.mpr lower
    simpa using read

theorem Valid.spells (valid : p.Valid) : p.spelling.Spells p.short := by
  have whole : p.short.toList = p.spelling.text := by rw [short,String.toList_ofList]
  refine ⟨valid.wellFormed,?_⟩
  rw [Text.trim_eq_self (whole ▸ ShortPort.trimmed_text valid.wellFormed),whole]

theorem readPort_short (valid : p.Valid) {known : Protocol}
    (means : p.spelling.Means (p.mapping known)) (service : String) :
    readPort service (.short (.text p.short)) =
      ⟨some (p.mapping known),p.notices service,[]⟩ := by
  have missing : p.spelling.host = none ↔ p.host = none := Option.map_eq_none_iff
  have read := readShortPort_of_means service valid.spells means
  simp only [missing] at read
  exact read

end Short

section Long

theorem portNumber?_of_publishes {published : Form.Scalar} {n : Nat}
    (told : Publishes published n) (range : 1 ≤ n ∧ n ≤ 65535) :
    portNumber? published.asText.toList = some n := by
  cases told with
  | number =>
    have digits : (Form.Scalar.int n).asText.toList = Nat.toDigits 10 n := by
      change (toString n).toList = _
      rw [Nat.toString_eq_ofList_toDigits,String.toList_ofList]
    rw [digits,portNumber?_toDigits range]
  | @digits digits _ denotes =>
    have decimal (c : Char) (member : c ∈ digits) : Text.isDecimal c = true :=
      Text.isDecimal_of_isDigit (Char.isDigit_iff_toNat.mpr (denotes.ascii c member))
    have nonempty : digits ≠ [] := by
      rintro rfl
      have zero : 0 = n := denotes.value
      omega
    rw [Form.Scalar.asText,String.toList_ofList]
    exact (ShortPort.portNumber?_eq_some_iff ⟨nonempty,decimal⟩).mpr denotes

theorem dropWhile_of_not_mem {s : List Char} {c : Char} (absent : c ∉ s) :
    s.dropWhile (· == c) = s := by
  refine List.dropWhile_eq_self_iff.mpr fun nonempty => ?_
  have other : s[0] ≠ c := fun same => absent (same ▸ List.getElem_mem nonempty)
  simpa using other

theorem brackets_not_mem {a : Address} (good : a.WellFormed) : '[' ∉ a.bare ∧ ']' ∉ a.bare := by
  cases a with
  | dotted ip =>
    have dotted := ShortPort.isDotted_iff.mpr good
    exact ⟨fun member => absurd (ShortPort.mem_isDotted dotted member) (by decide),
      fun member => absurd (ShortPort.mem_isDotted dotted member) (by decide)⟩
  | bracketed ip =>
    have bracketed := ShortPort.isBracketed_iff.mpr good
    exact ⟨fun member => absurd (ShortPort.mem_isBracketed bracketed member) (by decide),
      fun member => absurd (ShortPort.mem_isBracketed bracketed member) (by decide)⟩

/-- Brackets around an address are taken off, and none stand within it. -/
theorem withoutBrackets_address {a : Address} (good : a.WellFormed) {ip : String}
    (written : ip.toList = a.bare ∨ ip.toList = a.text) :
    withoutBrackets ip = String.ofList a.bare := by
  obtain ⟨left,right⟩ := brackets_not_mem good
  have reversed : ']' ∉ a.bare.reverse := by simpa using right
  have bare (same : ip.toList = a.bare) : withoutBrackets ip = String.ofList a.bare := by
    rw [withoutBrackets,same,dropWhile_of_not_mem left,dropWhile_of_not_mem reversed,
      List.reverse_reverse]
  rcases written with same | same
  · exact bare same
  cases a with
  | dotted ip => exact bare same
  | bracketed inner =>
    -- Taking off the one on the left stops at the one on the right, even if nothing is between them.
    have open' : '[' ∉ inner ++ [']'] := by simpa [Address.bare] using left
    simp only [Address.bare] at reversed ⊢
    rw [withoutBrackets,same,Address.text,List.dropWhile_cons_of_pos (by decide),
      dropWhile_of_not_mem open',List.reverse_append,List.reverse_singleton,List.singleton_append,
      List.dropWhile_cons_of_pos (by decide),dropWhile_of_not_mem reversed,List.reverse_reverse]

variable {p : PortSettings} {long : Form.LongPort}

theorem hostIp_of_toldBy (valid : p.Valid) (told : p.ToldBy long) :
    long.hostIp.map withoutBrackets = p.address.map (String.ofList ·.bare) := by
  have written := told.hostIp
  have good := valid.address
  generalize long.hostIp = ip at written ⊢
  generalize p.address = address at written good ⊢
  cases written with
  | none => rfl
  | some written => simp [withoutBrackets_address (good _ rfl) written]

theorem readHostPort_of_toldBy (valid : p.Valid) (told : p.ToldBy long) (service : String) :
    readHostPort service long = ⟨some (p.host.getD p.container),p.notices service,[]⟩ := by
  have published := told.published
  have range := valid.host
  unfold readHostPort notices
  rw [told.target]
  generalize long.published = s at published ⊢
  generalize p.host = host at published range ⊢
  cases published with
  | none => rfl
  | some published =>
    simp only [portNumber?_of_publishes published (range _ rfl)]
    rfl

theorem readPort_long (valid : p.Valid) (told : p.ToldBy long) {known : Protocol}
    (read : protocolOr p.protocol = .ok known) (service : String) :
    readPort service (.long long) = ⟨some (p.mapping known),p.notices service,[]⟩ := by
  have range : ¬(long.target = 0 ∨ 65535 < long.target) := by
    have := valid.container
    rw [told.target]
    omega
  rw [readPort,readLongPort,if_neg range,readHostPort_of_toldBy valid told]
  have settings : p.mapping known =
      { hostIp := long.hostIp.map withoutBrackets, hostPort := p.host.getD p.container,
        containerPort := long.target, protocol := known } := by
    rw [mapping,hostIp_of_toldBy valid told,told.target]
  simp [told.protocol,read,told.mode,settings,bind,pure]

end Long

end PortSettings

/-- What can be set for a mount in either form. -/
structure MountSettings where
  source : String
  target : String
  readOnly : Bool := false
  relabel : Option Relabel := none
  propagation : Option String := none

namespace MountSettings

structure Valid (m : MountSettings) : Prop where
  nonempty : m.source ≠ ""
  absolute : Text.startsWith m.target '/' = true
  source : ':' ∉ m.source.toList
  target : ':' ∉ m.target.toList
  propagation : ∀ o, m.propagation = some o → PlainOption o

def options (m : MountSettings) : List String :=
  (if m.readOnly then ["ro"] else []) ++ (m.relabel.map Relabel.option).toList ++
    m.propagation.toList

/-- A list of the options, in whatever order and perhaps with repetitions. -/
def Lists (m : MountSettings) (listed : List String) : Prop := ∀ o, o ∈ listed ↔ o ∈ m.options

/-- The long form, field by field. Its kind may be left out for a volume, not for a bind mount. -/
structure ToldBy (m : MountSettings) (volumes : Dict Volume) (long : Form.LongMount) : Prop where
  kind : long.kind = some (mountKind volumes m.source).text ∨
    long.kind = none ∧ mountKind volumes m.source = .volume
  source : long.source = some m.source
  target : long.target = m.target
  readOnly : long.readOnly = some true ↔ m.readOnly = true
  relabel : long.bind.bind (·.selinux) = m.relabel.map Relabel.option
  propagation : long.bind.bind (·.propagation) = m.propagation

/-- The mount that the settings ask for. -/
def mount (m : MountSettings) (volumes : Dict Volume) : Mount :=
  { source := m.source, target := m.target, kind := mountKind volumes m.source,
    options := TextSet.ofList m.options }

variable {m : MountSettings} {volumes : Dict Volume}

theorem Valid.plain (valid : m.Valid) {listed : List String} (lists : m.Lists listed) :
    ∀ o ∈ listed, PlainOption o := by
  intro o member
  have flag : PlainOption "ro" := by decide
  have label (r : Relabel) : PlainOption r.option := by cases r <;> decide
  rcases List.mem_append.mp ((lists o).mp member) with member | member
  · rcases List.mem_append.mp member with member | member
    · by_cases readOnly : m.readOnly = true
      · simp only [readOnly,if_true,List.mem_singleton] at member
        exact member ▸ flag
      · simp [readOnly] at member
    · obtain ⟨r,_,rfl⟩ := Option.map_eq_some_iff.mp (Option.mem_toList.mp member)
      exact label r
  · exact valid.propagation o (Option.mem_toList.mp member)

theorem readMount_short (valid : m.Valid) {listed : List String} (lists : m.Lists listed)
    (service : String) :
    readMount service volumes (.short (shortMountText m.source m.target listed)) =
      pure (some (m.mount volumes)) := by
  have read := readShortMount_text volumes valid.nonempty valid.absolute valid.source valid.target
    (valid.plain lists) service
  rw [TextSet.ofList_congr lists] at read
  exact read

theorem longMountKind_of_toldBy {long : Form.LongMount} (told : m.ToldBy volumes long) :
    longMountKind long.kind = .ok (mountKind volumes m.source) := by
  rcases told.kind with named | ⟨absent,volume⟩
  · rw [named]
    cases mountKind volumes m.source <;> rfl
  · rw [absent,volume]
    rfl

theorem longMountOptions_of_toldBy {long : Form.LongMount} (told : m.ToldBy volumes long) :
    longMountOptions long = TextSet.ofList m.options := by
  have flag : (if long.readOnly = some true then ["ro"] else []) =
      if m.readOnly then ["ro"] else [] := if_congr told.readOnly rfl rfl
  have label : (m.relabel.map Relabel.option).filter (fun s => s == "z" || s == "Z") =
      m.relabel.map Relabel.option := by
    rcases m.relabel with - | r
    · rfl
    · cases r <;> rfl
  rw [longMountOptions,flag,told.relabel,label,told.propagation,options]

theorem readMount_long (valid : m.Valid) {long : Form.LongMount} (told : m.ToldBy volumes long)
    (service : String) :
    readMount service volumes (.long long) = pure (some (m.mount volumes)) := by
  have given : long.source.filter (!·.isEmpty) = some m.source := by
    simp [told.source,valid.nonempty]
  rw [readMount,readLongMount,longMountKind_of_toldBy told,given]
  simp only [told.target,valid.absolute,if_true,longMountOptions_of_toldBy told]
  rfl

end MountSettings

/-- Whatever the settings of a port or of a mount, both forms of it give it, with the same notices:
that a port has no host port, and none for a mount. -/
theorem read_shortForm_longForm (service : String) (volumes : Dict Volume) :
    (∀ p : PortSettings, p.Valid →
      ∃ port, p.spelling.Means port ∧
        (∀ entry : Form.Scalar, entry.asText = p.short →
          readPort service (.short entry) = ⟨some port,p.notices service,[]⟩) ∧
        ∀ long, p.ToldBy long → readPort service (.long long) = ⟨some port,p.notices service,[]⟩) ∧
    ∀ m : MountSettings, m.Valid →
      (∀ listed, m.Lists listed →
        readMount service volumes (.short (shortMountText m.source m.target listed)) =
          ⟨some (m.mount volumes),[],[]⟩) ∧
      ∀ long, m.ToldBy volumes long →
        readMount service volumes (.long long) = ⟨some (m.mount volumes),[],[]⟩ := by
  constructor
  · intro p valid
    obtain ⟨known,read,means⟩ := valid.means
    refine ⟨p.mapping known,means,?_,?_⟩
    · intro entry text
      have short := PortSettings.readPort_short valid means service
      rw [readPort,Form.Scalar.asText] at short
      rw [readPort,text,short]
    · intro long told
      exact PortSettings.readPort_long valid told read service
  · intro m valid
    constructor
    · intro listed lists
      exact MountSettings.readMount_short valid lists service
    · intro long told
      exact MountSettings.readMount_long valid told service

/-- An address with colons, and letters of both cases. -/
def metricsPort : PortSettings :=
  { container := 9090, host := some 80, address := some (.bracketed "::1".toList),
    protocol := some "Udp" }

/-- Its long form, with a number that begins with a zero. -/
def metricsLong : Form.LongPort :=
  { target := 9090, published := some (.text "080"), hostIp := some "[::1]", protocol := some "Udp" }

/-- A path, with each option there is. -/
def certificates : MountSettings :=
  { source := "./certs", target := "/etc/certs", readOnly := true, relabel := some .exclusive,
    propagation := some "rslave" }

def certificatesLong : Form.LongMount :=
  { kind := some "bind", source := some "./certs", target := "/etc/certs", readOnly := some true,
    bind := some { propagation := some "rslave", selinux := some "Z" } }

theorem read_shortForm_longForm_metrics :
    readPort "web" (.short (.text "[::1]:80:9090/Udp")) = readPort "web" (.long metricsLong) ∧
      readMount "web" {} (.short "./certs:/etc/certs:rslave,Z,ro") =
        readMount "web" {} (.long certificatesLong) := by
  obtain ⟨ports,mounts⟩ := read_shortForm_longForm "web" {}
  constructor
  · have valid : metricsPort.Valid := by
      refine ⟨by decide,by rintro _ ⟨⟩; decide,?_,?_⟩
      · rintro _ ⟨⟩
        exact ShortPort.isBracketed_iff.mp (by decide)
      · rintro _ ⟨⟩
        exact ⟨.udp,by decide⟩
    have denotes : ShortPort.Denotes "080".toList 80 := ⟨by simp,rfl,by decide⟩
    have told : metricsPort.ToldBy metricsLong :=
      ⟨rfl,.some (.digits denotes),.some (.inr rfl),rfl,rfl⟩
    obtain ⟨_,_,short,long⟩ := ports metricsPort valid
    rw [short (.text "[::1]:80:9090/Udp") (by decide),long metricsLong told]
  · have valid : certificates.Valid := by
      refine ⟨by decide,by decide,by decide,by decide,?_⟩
      rintro _ ⟨⟩
      decide
    have told : certificates.ToldBy {} certificatesLong :=
      ⟨.inl (by decide),rfl,rfl,by decide,rfl,rfl⟩
    have lists : certificates.Lists ["rslave","Z","ro"] := by
      intro o
      simp [MountSettings.options,certificates,Relabel.option]
      tauto
    obtain ⟨short,long⟩ := mounts certificates valid
    rw [long certificatesLong told,← short _ lists]
    rfl

end ComposeToPodman.Compose
