import ComposeToPodman.Compose.Read.Ports
import ComposeToPodman.Proofs.Compose.Reading
import ComposeToPodman.Proofs.Text
import ComposeToPodman.Target.ComposeFile

/-! Published ports: the text that is written for one is read as the same port. -/
namespace ComposeToPodman.Compose

/-- Characters of a binding: none of them is a blank or ends the binding. -/
def isBindingChar (c : Char) : Bool := !Text.isBlank c && c != '/'

theorem isBindingChar_of_isDecimal {c : Char} (decimal : Text.isDecimal c = true) :
    isBindingChar c = true := by
  have visible := Text.isBlank_eq_false_of_isDecimal decimal
  have bounds := Text.bounds_of_isDecimal decimal
  have other : c ≠ '/' := by rintro rfl; revert bounds; decide
  simp [isBindingChar,visible,other]

theorem isBindingChar_of_digitValue {c : Char} (digit : (Text.digitValue 16 c).isSome = true) :
    isBindingChar c = true := by
  have bounds := Text.bounds_of_digitValue digit
  have other : c ≠ '/' := by rintro rfl; revert bounds; decide
  have visible : Text.isBlank c = false := by
    cases blank : Text.isBlank c with
    | false => rfl
    | true =>
      have := Text.bounds_of_isBlank blank
      omega
  simp [isBindingChar,visible,other]

namespace ShortPort

theorem mem_isNumeral {s : List Char} (numeral : isNumeral s = true) {c : Char} (member : c ∈ s) :
    Text.isDecimal c = true := by
  simp only [isNumeral,Bool.and_eq_true,List.all_eq_true] at numeral
  exact numeral.2 c member

theorem not_mem_isNumeral {s : List Char} (numeral : isNumeral s = true) {c : Char}
    (sign : Text.isDecimal c = false) : c ∉ s := fun member => by
  simp [mem_isNumeral numeral member] at sign

theorem isNumeral_toDigits (n : Nat) : isNumeral (Nat.toDigits 10 n) = true := by
  simp only [isNumeral,Bool.and_eq_true,List.all_eq_true,Bool.not_eq_true']
  refine ⟨by simp,fun c member => ?_⟩
  exact Text.isDecimal_of_isDigit (Text.isDigit_of_mem_toDigits member)

/-- An address of four groups consists of digits and points. -/
theorem mem_isDotted {ip : List Char} (dotted : isDotted ip = true) {c : Char} (member : c ∈ ip) :
    c = '.' ∨ Text.isDecimal c = true := by
  simp only [isDotted,Bool.and_eq_true,List.all_eq_true] at dotted
  rcases Text.mem_splitOn_of_mem '.' member with point | ⟨group,among,member⟩
  · exact .inl point
  · exact .inr (mem_isNumeral (dotted.2 group among).1 member)

theorem not_isDotted_of_isNumeral {s : List Char} (numeral : isNumeral s = true) :
    isDotted s = false := by
  simp [isDotted,List.splitOn_eq_singleton (not_mem_isNumeral numeral (c := '.') (by decide))]

/-- What may stand in brackets consists of colons, points and hexadecimal digits. -/
theorem mem_isBracketed {ip : List Char} (bracketed : isBracketed ip = true) {c : Char}
    (member : c ∈ ip) : c = ':' ∨ c = '.' ∨ (Text.digitValue 16 c).isSome = true := by
  simp only [isBracketed,Bool.and_eq_true,List.all_eq_true,Bool.or_eq_true,beq_iff_eq] at bracketed
  simpa [or_assoc] using bracketed.2 c member

theorem ports?_pair {host container : List Char} (first : isNumeral host = true)
    (second : isNumeral container = true) :
    ports? (host ++ ':' :: container) = some { host := some host, container } := by
  have before : ':' ∉ host := not_mem_isNumeral first (by decide)
  have after : ':' ∉ container := not_mem_isNumeral second (by decide)
  simp [ports?,List.splitOn_append_cons_self_of_not_mem before,List.splitOn_eq_singleton after,first,
    second]

/-- Without a bracket in front, what stands before the first colon is an address or belongs to the
ports. -/
theorem binding?_cut {ip rest : List Char} (front : '[' ∉ ip) (colon : ':' ∉ ip) :
    binding? (ip ++ ':' :: rest) =
      if isDotted ip then (ports? rest).map fun p => { p with ip := some ip }
      else ports? (ip ++ ':' :: rest) := by
  unfold binding?
  split
  next tail bracket =>
    cases ip with
    | nil => simp at bracket
    | cons c ip => exact absurd (List.mem_cons.mpr (.inl (List.cons.inj bracket).1.symm)) front
  next => simp [Text.cut?_append_cons colon]

theorem binding?_bracket {ip rest : List Char} (bracketed : isBracketed ip = true) :
    binding? ('[' :: (ip ++ ']' :: ':' :: rest)) =
      (ports? rest).map fun p => { p with ip := some ip } := by
  have inside : ']' ∉ ip := fun member => absurd (mem_isBracketed bracketed member) (by decide)
  simp [binding?,Text.cut?_append_cons inside,bracketed]

end ShortPort

namespace PortMapping

open ShortPort

/-- The host address, if there is one, has four groups or can be told from the ports by brackets. -/
def Portable (p : PortMapping) : Prop :=
  ∀ ip, p.hostIp = some ip →
    isDotted ip.toList = true ∨ (isBracketed ip.toList = true ∧ ':' ∈ ip.toList)

instance (p : PortMapping) : Decidable p.Portable :=
  inferInstanceAs (Decidable (∀ ip ∈ p.hostIp,
    isDotted ip.toList = true ∨ (isBracketed ip.toList = true ∧ ':' ∈ ip.toList)))

structure InRange (p : PortMapping) : Prop where
  host : 0 < p.hostPort ∧ p.hostPort ≤ 65535
  container : 0 < p.containerPort ∧ p.containerPort ≤ 65535

/-- The parts that a binding is made of. -/
def parts (p : PortMapping) : ShortPort :=
  { ip := p.hostIp.map String.toList
    host := some (Nat.toDigits 10 p.hostPort)
    container := Nat.toDigits 10 p.containerPort }

/-- The ports of a binding, without an address. -/
def pair (p : PortMapping) : List Char :=
  Nat.toDigits 10 p.hostPort ++ ':' :: Nat.toDigits 10 p.containerPort

theorem toList_binding (p : PortMapping) : p.binding.toList =
    match p.hostIp with
    | none => p.pair
    | some ip =>
      if ':' ∈ ip.toList then '[' :: (ip.toList ++ ']' :: ':' :: p.pair)
      else ip.toList ++ ':' :: p.pair := by
  unfold binding
  cases p.hostIp with
  | none => simp [pair]
  | some ip => by_cases colon : ':' ∈ ip.toList <;> simp [pair,colon]

theorem ports?_pair (p : PortMapping) : ports? p.pair = some { p.parts with ip := none } :=
  ShortPort.ports?_pair (isNumeral_toDigits _) (isNumeral_toDigits _)

theorem binding?_binding {p : PortMapping} (portable : p.Portable) :
    binding? p.binding.toList = some p.parts := by
  rw [toList_binding]
  cases address : p.hostIp with
  | none =>
    have numeral := isNumeral_toDigits p.hostPort
    dsimp only
    rw [pair,binding?_cut (not_mem_isNumeral numeral (by decide))
      (not_mem_isNumeral numeral (by decide)),not_isDotted_of_isNumeral numeral]
    simp only [Bool.false_eq_true,if_false]
    exact p.ports?_pair.trans (by simp [parts,address])
  | some ip =>
    dsimp only
    split
    next colon =>
      have bracketed : isBracketed ip.toList = true := by
        rcases portable ip address with dotted | ⟨bracketed,_⟩
        · exact absurd (mem_isDotted dotted colon) (by decide)
        · exact bracketed
      simp [binding?_bracket bracketed,ports?_pair,parts,address]
    next colon =>
      have dotted : isDotted ip.toList = true := by
        rcases portable ip address with dotted | ⟨_,inside⟩
        · exact dotted
        · exact absurd inside colon
      have front : '[' ∉ ip.toList := fun member =>
        absurd (mem_isDotted dotted member) (by decide)
      simp [binding?_cut front colon,dotted,ports?_pair,parts,address]

theorem isBindingChar_of_mem_pair {p : PortMapping} {c : Char} (member : c ∈ p.pair) :
    isBindingChar c = true := by
  simp only [pair,List.mem_append,List.mem_cons] at member
  rcases member with digit | rfl | digit
  · exact isBindingChar_of_isDecimal (mem_isNumeral (isNumeral_toDigits _) digit)
  · decide
  · exact isBindingChar_of_isDecimal (mem_isNumeral (isNumeral_toDigits _) digit)

theorem isBindingChar_of_mem_ip {p : PortMapping} (portable : p.Portable) {ip : String}
    (address : p.hostIp = some ip) {c : Char} (member : c ∈ ip.toList) : isBindingChar c = true := by
  rcases portable ip address with dotted | ⟨bracketed,_⟩
  · rcases mem_isDotted dotted member with rfl | decimal
    · decide
    · exact isBindingChar_of_isDecimal decimal
  · rcases mem_isBracketed bracketed member with rfl | rfl | digit
    · decide
    · decide
    · exact isBindingChar_of_digitValue digit

theorem isBindingChar_of_mem_binding {p : PortMapping} (portable : p.Portable) {c : Char}
    (member : c ∈ p.binding.toList) : isBindingChar c = true := by
  rw [toList_binding] at member
  split at member
  next => exact isBindingChar_of_mem_pair member
  next ip address =>
    have inIp := isBindingChar_of_mem_ip (c := c) portable address
    have inPair := isBindingChar_of_mem_pair (c := c) (p := p)
    split at member
    · simp only [List.mem_cons,List.mem_append] at member
      rcases member with rfl | member | rfl | rfl | member
      · decide
      · exact inIp member
      · decide
      · decide
      · exact inPair member
    · simp only [List.mem_append,List.mem_cons] at member
      rcases member with member | rfl | member
      · exact inIp member
      · decide
      · exact inPair member

end PortMapping

open Target.ComposeFile in
/-- The parts of the text of a port; TCP is not told. -/
theorem parse?_portText {p : PortMapping} (portable : p.Portable) :
    ShortPort.parse? (Text.trimChars (portText p).toList) =
      some { p.parts with
        protocol := if p.protocol = .tcp then none else some p.protocol.text.toList } := by
  have visible (c : Char) (member : c ∈ p.binding.toList) : Text.isBlank c = false ∧ c ≠ '/' := by
    simpa [isBindingChar] using PortMapping.isBindingChar_of_mem_binding portable member
  have slash : '/' ∉ p.binding.toList := fun member => (visible _ member).2 rfl
  have trimmed : Text.Trimmed p.binding.toList := .of_all fun c member => (visible c member).1
  have binding := PortMapping.binding?_binding portable
  cases protocol : p.protocol with
  | tcp =>
    rw [portText,protocol]
    dsimp only
    rw [trimmed.trimChars_eq,ShortPort.parse?,Text.cut?_eq_none_iff.mpr slash]
    exact binding
  | udp =>
    have whole : (portText p).toList = p.binding.toList ++ '/' :: "udp".toList := by
      simp [portText,PortMapping.text,protocol,Protocol.text]
    have trimmed : Text.Trimmed (p.binding.toList ++ '/' :: "udp".toList) := by
      refine .of_all fun c member => ?_
      simp only [List.mem_append,List.mem_cons] at member
      rcases member with inside | rfl | letter
      · exact (visible c inside).1
      · rfl
      · have letter : c = 'u' ∨ c = 'd' ∨ c = 'p' := by simpa using letter
        rcases letter with rfl | rfl | rfl <;> rfl
    rw [whole,trimmed.trimChars_eq,ShortPort.parse?,Text.cut?_append_cons slash]
    simp [binding,Protocol.text,ShortPort.isLetter]

theorem portNumber?_toDigits {n : Nat} (range : 0 < n ∧ n ≤ 65535) :
    portNumber? (Nat.toDigits 10 n) = some n := by
  simp [portNumber?,Text.boundedNatural?_toDigits range.2,range.1]

/-- A port is read from its text. -/
theorem readShortPort_portText {p : PortMapping} (portable : p.Portable) (inRange : p.InRange)
    (service : String) :
    readShortPort service (Target.ComposeFile.portText p) = pure (some p) := by
  have protocol : protocolOr ((if p.protocol = .tcp then none else
      some p.protocol.text.toList).map String.ofList) = .ok p.protocol := by
    cases p.protocol <;> rfl
  unfold readShortPort
  rw [parse?_portText portable]
  simp [protocol,PortMapping.parts,portNumber?_toDigits inRange.host,
    portNumber?_toDigits inRange.container]

/-! Other addresses are lost: none is read from the text. -/

theorem ip_of_ports? {s : List Char} {parts : ShortPort} (read : ShortPort.ports? s = some parts) :
    parts.ip = none := by
  unfold ShortPort.ports? at read
  split at read
  next =>
    obtain ⟨_,⟨⟩⟩ := Option.ite_none_right_eq_some.mp read
    rfl
  next =>
    obtain ⟨_,⟨⟩⟩ := Option.ite_none_right_eq_some.mp read
    rfl
  next => cases read

/-- An address that is read has four groups or stands in a bracket that the text begins with. -/
theorem ip_of_binding? {s ip : List Char} {parts : ShortPort}
    (read : ShortPort.binding? s = some parts) (address : parts.ip = some ip) :
    ShortPort.isDotted ip = true ∨ (ShortPort.isBracketed ip = true ∧ s.head? = some '[') := by
  have unaddressed {t : List Char} (read : ShortPort.ports? t = some parts) : False := by
    rw [ip_of_ports? read] at address
    cases address
  unfold ShortPort.binding? at read
  split at read
  next =>
    split at read
    next =>
      obtain ⟨bracketed,read⟩ := Option.ite_none_right_eq_some.mp read
      obtain ⟨_,_,rfl⟩ := Option.map_eq_some_iff.mp read
      obtain rfl := Option.some.inj address
      exact .inr ⟨bracketed,rfl⟩
    next => cases read
  next =>
    split at read
    next =>
      split at read
      next dotted =>
        obtain ⟨_,_,rfl⟩ := Option.map_eq_some_iff.mp read
        obtain rfl := Option.some.inj address
        exact .inl dotted
      next => exact (unaddressed read).elim
    next => exact (unaddressed read).elim

theorem ip_of_parse? {s ip : List Char} {parts : ShortPort}
    (read : ShortPort.parse? s = some parts) (address : parts.ip = some ip) :
    ShortPort.isDotted ip = true ∨ (ShortPort.isBracketed ip = true ∧ s.head? = some '[') := by
  unfold ShortPort.parse? at read
  split at read
  next => exact ip_of_binding? read address
  next front protocol cut =>
    obtain ⟨_,read⟩ := Option.ite_none_right_eq_some.mp read
    obtain ⟨_,bound,rfl⟩ := Option.map_eq_some_iff.mp read
    obtain ⟨rfl,_⟩ := Text.cut?_eq_some_iff.mp cut
    rcases ip_of_binding? bound address with dotted | ⟨bracketed,head⟩
    · exact .inl dotted
    · exact .inr ⟨bracketed,by simp [head]⟩

/-- The address of a port that is read is one of the parts of its text. -/
theorem parse?_of_readShortPort {service spec : String} {p : PortMapping}
    (read : (readShortPort service spec).value = some p) :
    ∃ parts, ShortPort.parse? (Text.trimChars spec.toList) = some parts ∧
      p.hostIp = parts.ip.map String.ofList := by
  unfold readShortPort at read
  split at read
  next => cases read
  next parts parsed =>
    refine ⟨parts,parsed,?_⟩
    split at read
    next => cases read
    split at read
    next => cases read
    next => cases read
    all_goals
      obtain rfl := Option.some.inj read
      rfl

open Target.ComposeFile in
/-- The text of a port begins with its address, or with a bracket if there are colons in it. -/
theorem portText_of_hostIp {p : PortMapping} {ip : String} (address : p.hostIp = some ip)
    (colon : ':' ∉ ip.toList) : ∃ rest, (portText p).toList = ip.toList ++ ':' :: rest := by
  have binding : p.binding.toList = ip.toList ++ ':' :: p.pair := by
    simp [PortMapping.toList_binding,address,colon]
  unfold portText
  split
  next => exact ⟨p.pair,binding⟩
  next => exact ⟨p.pair ++ ("/" ++ p.protocol.text).toList,by simp [PortMapping.text,binding]⟩

/-- A port that is read from its own text is portable. -/
theorem portable_of_readShortPort {service : String} {p : PortMapping}
    (read : (readShortPort service (Target.ComposeFile.portText p)).value = some p) :
    p.Portable := by
  intro ip address
  obtain ⟨parts,parsed,same⟩ := parse?_of_readShortPort read
  obtain ⟨chars,inside,rfl⟩ := Option.map_eq_some_iff.mp (same.symm.trans address)
  rw [String.toList_ofList]
  rcases ip_of_parse? parsed inside with dotted | ⟨bracketed,head⟩
  · exact .inl dotted
  · refine .inr ⟨bracketed,?_⟩
    by_contra colon
    -- Then the text begins with the address, and in a bracket there are neither blanks nor brackets.
    obtain ⟨rest,text⟩ := portText_of_hostIp address (by rwa [String.toList_ofList])
    rw [String.toList_ofList] at text
    have nonempty : chars ≠ [] := by
      rintro rfl
      simp [ShortPort.isBracketed] at bracketed
    obtain ⟨c,more,rfl⟩ := List.exists_cons_of_ne_nil nonempty
    have among := ShortPort.mem_isBracketed bracketed List.mem_cons_self
    have visible : Text.isBlank c = false := by
      rcases among with rfl | rfl | digit
      · rfl
      · rfl
      · exact (by simpa [isBindingChar] using isBindingChar_of_digitValue digit : _ ∧ _).1
    have first := Text.head?_dropWhile_of_trimChars head
    rw [text,List.cons_append,List.dropWhile_cons_of_neg (by simp [visible])] at first
    obtain rfl := Option.some.inj first
    exact absurd among (by decide)

/-- What is read from the text of a port is the port exactly if it is portable. -/
theorem readShortPort_portText_iff {p : PortMapping} (inRange : p.InRange) (service : String) :
    (readShortPort service (Target.ComposeFile.portText p)).value = some p ↔ p.Portable :=
  ⟨portable_of_readShortPort,fun portable => by
    rw [readShortPort_portText portable inRange]
    rfl⟩

/-! Every port that is read is in range. -/

theorem range_of_portNumber? {digits : List Char} {n : Nat} (read : portNumber? digits = some n) :
    0 < n ∧ n ≤ 65535 := by
  obtain ⟨number,positive⟩ := Option.filter_eq_some_iff.mp read
  exact ⟨by simpa using positive,Text.le_of_boundedNatural?_eq_some number⟩

theorem inRange_of_readShortPort {service spec : String} {p : PortMapping}
    (read : (readShortPort service spec).value = some p) : p.InRange := by
  unfold readShortPort at read
  split at read
  next => cases read
  split at read
  next => cases read
  split at read
  next => cases read
  next => cases read
  next container host container_read host_read =>
    obtain rfl := Option.some.inj read
    obtain ⟨digits,_,number⟩ := Option.map_eq_some_iff.mp host_read
    exact ⟨range_of_portNumber? number,range_of_portNumber? container_read⟩
  next container container_read _ =>
    obtain rfl := Option.some.inj read
    exact ⟨range_of_portNumber? container_read,range_of_portNumber? container_read⟩

theorem range_of_readHostPort {service : String} {long : Form.LongPort} {n : Nat}
    (target : 0 < long.target ∧ long.target ≤ 65535)
    (read : (readHostPort service long).value = some n) : 0 < n ∧ n ≤ 65535 := by
  unfold readHostPort at read
  split at read
  next =>
    obtain rfl := Option.some.inj read
    exact target
  next =>
    split at read
    next m number =>
      obtain rfl := Option.some.inj read
      exact range_of_portNumber? number
    next => cases read

theorem inRange_of_readLongPort {service : String} {long : Form.LongPort} {p : PortMapping}
    (read : (readLongPort service long).value = some p) : p.InRange := by
  unfold readLongPort at read
  split at read
  next => cases read
  next inside =>
    have target : 0 < long.target ∧ long.target ≤ 65535 := by omega
    rw [Reading.value_bind] at read
    split at read
    next => cases read
    next hostPort host =>
      split at read
      next => cases read
      next =>
        dsimp only at read
        split at read
        all_goals
          obtain rfl := Option.some.inj read
          exact ⟨range_of_readHostPort target host,target⟩

theorem inRange_of_readPort {service : String} {form : Form.Port} {p : PortMapping}
    (read : (readPort service form).value = some p) : p.InRange := by
  cases form with
  | short spec => exact inRange_of_readShortPort read
  | long port => exact inRange_of_readLongPort read

end ComposeToPodman.Compose
