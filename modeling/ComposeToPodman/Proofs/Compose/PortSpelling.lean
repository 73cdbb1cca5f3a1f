import ComposeToPodman.Proofs.Compose.Names
import ComposeToPodman.Proofs.Compose.Ports
import Mathlib.Data.List.Basic

/-! The spellings of a short port. A text is read as a port exactly if it is spelled as one, and it can
be spelled in one way at most. -/
namespace ComposeToPodman.Compose

namespace ShortPort

/-- Decimal digits, of any script. -/
def Numeral (s : List Char) : Prop := s ≠ [] ∧ ∀ c ∈ s, Text.isDecimal c = true

/-- Four groups of one to three digits. -/
def Dotted (ip : List Char) : Prop :=
  ∃ a b c d : List Char, ip = a ++ '.' :: (b ++ '.' :: (c ++ '.' :: d)) ∧
    ∀ group ∈ [a,b,c,d], Numeral group ∧ group.length ≤ 3

/-- What may stand in brackets. -/
def Bracketed (ip : List Char) : Prop :=
  ip ≠ [] ∧ ∀ c ∈ ip, c = ':' ∨ c = '.' ∨ '0' ≤ c ∧ c ≤ '9' ∨ 'A' ≤ c ∧ c ≤ 'F' ∨ 'a' ≤ c ∧ c ≤ 'f'

/-- An address as it is written. -/
inductive Address
  | dotted (ip : List Char)
  | bracketed (ip : List Char)
deriving DecidableEq

namespace Address

def text : Address → List Char
  | dotted ip => ip
  | bracketed ip => '[' :: (ip ++ [']'])

/-- The address without its brackets. -/
def bare : Address → List Char
  | dotted ip => ip
  | bracketed ip => ip

def WellFormed : Address → Prop
  | dotted ip => Dotted ip
  | bracketed ip => Bracketed ip

end Address

/-- `[address:][host:]container[/letters]`. -/
structure Spelling where
  address : Option Address := none
  host : Option (List Char) := none
  container : List Char
  letters : Option (List Char) := none
deriving DecidableEq

/-- A number that a port can have, in digits of ASCII. -/
structure Denotes (digits : List Char) (n : Nat) : Prop where
  ascii : ∀ c ∈ digits, '0' ≤ c ∧ c ≤ '9'
  value : Nat.ofDigitChars 10 digits 0 = n
  range : 1 ≤ n ∧ n ≤ 65535

namespace Spelling

def ports (w : Spelling) : List Char := w.host.elim [] (· ++ [':']) ++ w.container

def text (w : Spelling) : List Char :=
  w.address.elim [] (·.text ++ [':']) ++ w.ports ++ w.letters.elim [] ('/' :: ·)

structure WellFormed (w : Spelling) : Prop where
  address : ∀ a, w.address = some a → a.WellFormed
  host : ∀ digits, w.host = some digits → Numeral digits
  container : Numeral w.container
  letters : ∀ l, w.letters = some l →
    l ≠ [] ∧ ∀ c ∈ l, 'A' ≤ c ∧ c ≤ 'Z' ∨ 'a' ≤ c ∧ c ≤ 'z'

/-- The text of a port without the blanks around it is spelled so. -/
def Spells (w : Spelling) (spec : String) : Prop :=
  w.WellFormed ∧ w.text = (Text.trim spec).toList

structure Means (w : Spelling) (p : PortMapping) : Prop where
  hostIp : p.hostIp = w.address.map (String.ofList ·.bare)
  container : Denotes w.container p.containerPort
  /-- Without a host port it is the container's. -/
  host : w.host.elim (p.hostPort = p.containerPort) (Denotes · p.hostPort)
  /-- In letters of either case; without letters it is TCP. -/
  protocol : w.letters.elim (p.protocol = .tcp) (·.map Char.toLower = p.protocol.text.toList)

def parts (w : Spelling) : ShortPort :=
  { ip := w.address.map (·.bare), host := w.host, container := w.container, protocol := w.letters }

end Spelling

theorem isNumeral_iff {s : List Char} : isNumeral s = true ↔ Numeral s := by
  simp [isNumeral,Numeral]

theorem isLetter_iff {c : Char} : isLetter c = true ↔ 'A' ≤ c ∧ c ≤ 'Z' ∨ 'a' ≤ c ∧ c ≤ 'z' := by
  rw [isLetter,isAlpha_iff]

theorem isBracketed_iff {ip : List Char} : isBracketed ip = true ↔ Bracketed ip := by
  simp [isBracketed,Bracketed,Text.isSome_digitValue_iff,or_assoc]

theorem isDotted_iff {ip : List Char} : isDotted ip = true ↔ Dotted ip := by
  constructor
  · intro dotted
    simp only [isDotted,Bool.and_eq_true,beq_iff_eq,List.all_eq_true,isNumeral_iff,
      decide_eq_true_eq] at dotted
    obtain ⟨four,groups⟩ := dotted
    obtain ⟨a,b,c,d,cut⟩ := List.length_eq_four.mp four
    have whole : ['.'].intercalate (ip.splitOn '.') = ip := List.intercalate_splitOn '.'
    rw [cut] at groups whole
    exact ⟨a,b,c,d,by simp [← whole],groups⟩
  · rintro ⟨a,b,c,d,rfl,groups⟩
    have absent (group : List Char) (member : group ∈ [a,b,c,d]) : '.' ∉ group :=
      not_mem_isNumeral (isNumeral_iff.mpr (groups group member).1) (by decide)
    have cut : (a ++ '.' :: (b ++ '.' :: (c ++ '.' :: d))).splitOn '.' = [a,b,c,d] := by
      rw [List.splitOn_append_cons_self_of_not_mem (absent a (by simp)),
        List.splitOn_append_cons_self_of_not_mem (absent b (by simp)),
        List.splitOn_append_cons_self_of_not_mem (absent c (by simp)),
        List.splitOn_eq_singleton (absent d (by simp))]
    simpa [isDotted,cut,isNumeral_iff] using groups

/-! What is read is spelled, with the parts that are read. -/

theorem spelled_of_ports? {s : List Char} {p : ShortPort} (read : ports? s = some p) :
    ∃ w : Spelling, w.WellFormed ∧ w.address = none ∧ w.letters = none ∧ w.ports = s ∧
      w.parts = p := by
  have whole : [':'].intercalate (s.splitOn ':') = s := List.intercalate_splitOn ':'
  unfold ports? at read
  split at read
  next container cut =>
    obtain ⟨numeral,⟨⟩⟩ := Option.ite_none_right_eq_some.mp read
    have wellFormed : Spelling.WellFormed { container } :=
      ⟨nofun,nofun,isNumeral_iff.mp numeral,nofun⟩
    rw [cut] at whole
    exact ⟨_,wellFormed,rfl,rfl,by simpa [Spelling.ports] using whole,rfl⟩
  next host container cut =>
    obtain ⟨numerals,⟨⟩⟩ := Option.ite_none_right_eq_some.mp read
    simp only [Bool.and_eq_true,isNumeral_iff] at numerals
    obtain ⟨first,second⟩ := numerals
    have wellFormed : Spelling.WellFormed { host := some host, container } :=
      ⟨nofun,fun _ same => Option.some.inj same ▸ first,second,nofun⟩
    rw [cut] at whole
    exact ⟨_,wellFormed,rfl,rfl,by simpa [Spelling.ports] using whole,rfl⟩
  next => cases read

theorem spelled_of_address {a : Address} (good : a.WellFormed) {s : List Char} {p : ShortPort}
    (read : (ports? s).map (fun q => { q with ip := some a.bare }) = some p) :
    ∃ w : Spelling, w.WellFormed ∧ w.letters = none ∧ w.text = a.text ++ ':' :: s ∧ w.parts = p := by
  obtain ⟨q,inner,rfl⟩ := Option.map_eq_some_iff.mp read
  obtain ⟨w,wellFormed,_,letters,rfl,rfl⟩ := spelled_of_ports? inner
  refine ⟨{ w with address := some a },{ wellFormed with address := ?_ },letters,?_,rfl⟩
  · rintro _ ⟨⟩
    exact good
  · simp [Spelling.text,Spelling.ports,letters]

theorem spelled_of_binding? {s : List Char} {p : ShortPort} (read : binding? s = some p) :
    ∃ w : Spelling, w.WellFormed ∧ w.letters = none ∧ w.text = s ∧ w.parts = p := by
  have bare (read : ports? s = some p) :
      ∃ w : Spelling, w.WellFormed ∧ w.letters = none ∧ w.text = s ∧ w.parts = p := by
    obtain ⟨w,wellFormed,address,letters,rfl,parts⟩ := spelled_of_ports? read
    exact ⟨w,wellFormed,letters,by simp [Spelling.text,address,letters],parts⟩
  unfold binding? at read
  split at read
  next rest =>
    split at read
    next ip rest cut =>
      obtain ⟨bracketed,read⟩ := Option.ite_none_right_eq_some.mp read
      obtain ⟨rfl,_⟩ := Text.cut?_eq_some_iff.mp cut
      simpa [Address.text] using
        spelled_of_address (a := .bracketed ip) (isBracketed_iff.mp bracketed) read
    next => cases read
  next =>
    split at read
    next ip rest cut =>
      split at read
      next dotted =>
        obtain ⟨rfl,_⟩ := Text.cut?_eq_some_iff.mp cut
        exact spelled_of_address (a := .dotted ip) (isDotted_iff.mp dotted) read
      next => exact bare read
    next => exact bare read

theorem spelled_of_parse? {s : List Char} {p : ShortPort} (read : parse? s = some p) :
    ∃ w : Spelling, w.WellFormed ∧ w.text = s ∧ w.parts = p := by
  unfold parse? at read
  split at read
  next =>
    obtain ⟨w,wellFormed,_,text,parts⟩ := spelled_of_binding? read
    exact ⟨w,wellFormed,text,parts⟩
  next front letters cut =>
    obtain ⟨good,read⟩ := Option.ite_none_right_eq_some.mp read
    obtain ⟨q,bound,rfl⟩ := Option.map_eq_some_iff.mp read
    obtain ⟨w,wellFormed,bare,rfl,rfl⟩ := spelled_of_binding? bound
    obtain ⟨rfl,_⟩ := Text.cut?_eq_some_iff.mp cut
    refine ⟨{ w with letters := some letters },{ wellFormed with letters := ?_ },?_,rfl⟩
    · rintro _ ⟨⟩
      simpa [isLetter_iff] using good
    · simp [Spelling.text,Spelling.ports,bare]

theorem isBlank_eq_false_of_letter {c : Char} (letter : 'A' ≤ c ∧ c ≤ 'Z' ∨ 'a' ≤ c ∧ c ≤ 'z') :
    Text.isBlank c = false := by
  cases blank : Text.isBlank c with
  | false => rfl
  | true =>
    have bounds := Text.bounds_of_isBlank blank
    have letter : 65 ≤ c.toNat ∧ c.toNat ≤ 90 ∨ 97 ≤ c.toNat ∧ c.toNat ≤ 122 := letter
    omega

/-! What is spelled is read. -/

section Spelled

variable {w : Spelling}

theorem not_mem_numeral {s : List Char} (numeral : Numeral s) {c : Char}
    (sign : Text.isDecimal c = false) : c ∉ s :=
  not_mem_isNumeral (isNumeral_iff.mpr numeral) sign

/-- Without brackets and colons there is no address. -/
theorem binding?_eq_ports? {s : List Char} (front : '[' ∉ s) (colon : ':' ∉ s) :
    binding? s = ports? s := by
  unfold binding?
  split
  next => exact absurd List.mem_cons_self front
  next => rw [Text.cut?_eq_none_iff.mpr colon]

theorem ports?_ports (wellFormed : w.WellFormed) :
    ports? w.ports = some { host := w.host, container := w.container } := by
  have container := isNumeral_iff.mpr wellFormed.container
  cases host : w.host with
  | none =>
    have cut := List.splitOn_eq_singleton (not_mem_isNumeral container (c := ':') (by decide))
    simp [Spelling.ports,host,ports?,cut,container]
  | some digits =>
    have first := isNumeral_iff.mpr (wellFormed.host digits host)
    simpa [Spelling.ports,host] using ports?_pair first container

/-- Without an address what stands before a colon is a numeral. -/
theorem binding?_ports (wellFormed : w.WellFormed) : binding? w.ports = ports? w.ports := by
  cases host : w.host with
  | none =>
    have whole : w.ports = w.container := by simp [Spelling.ports,host]
    rw [whole]
    exact binding?_eq_ports? (not_mem_numeral wellFormed.container (by decide))
      (not_mem_numeral wellFormed.container (by decide))
  | some digits =>
    have numeral := isNumeral_iff.mpr (wellFormed.host digits host)
    have whole : w.ports = digits ++ ':' :: w.container := by simp [Spelling.ports,host]
    rw [whole,binding?_cut (not_mem_isNumeral numeral (by decide))
      (not_mem_isNumeral numeral (by decide)),not_isDotted_of_isNumeral numeral]
    simp

theorem binding?_address {a : Address} (good : a.WellFormed) (rest : List Char) :
    binding? (a.text ++ ':' :: rest) =
      (ports? rest).map fun p => { p with ip := some a.bare } := by
  cases a with
  | dotted ip =>
    have dotted := isDotted_iff.mpr good
    have absent (c : Char) (sign : Text.isDecimal c = false) (other : c ≠ '.') : c ∉ ip :=
      fun member => (mem_isDotted dotted member).elim other (by simp [sign])
    rw [Address.text,binding?_cut (absent '[' (by decide) (by decide))
      (absent ':' (by decide) (by decide)),if_pos dotted]
    rfl
  | bracketed ip =>
    simpa [Address.text,Address.bare] using binding?_bracket (isBracketed_iff.mpr good)

theorem isBindingChar_of_mem_numeral {s : List Char} (numeral : Numeral s) {c : Char}
    (member : c ∈ s) : isBindingChar c = true := isBindingChar_of_isDecimal (numeral.2 c member)

theorem isBindingChar_of_mem_address {a : Address} (good : a.WellFormed) {c : Char}
    (member : c ∈ a.text) : isBindingChar c = true := by
  cases a with
  | dotted ip =>
    rcases mem_isDotted (isDotted_iff.mpr good) member with rfl | decimal
    · decide
    · exact isBindingChar_of_isDecimal decimal
  | bracketed ip =>
    rw [Address.text,List.mem_cons,List.mem_append,List.mem_singleton] at member
    rcases member with rfl | inside | rfl
    · decide
    · rcases mem_isBracketed (isBracketed_iff.mpr good) inside with rfl | rfl | digit
      · decide
      · decide
      · exact isBindingChar_of_digitValue digit
    · decide

/-- What stands before the letters is a binding: no blank is in it, and no slash. -/
theorem isBindingChar_of_mem_front (wellFormed : w.WellFormed) {c : Char}
    (member : c ∈ w.address.elim [] (·.text ++ [':']) ++ w.ports) : isBindingChar c = true := by
  rcases List.mem_append.mp member with first | ports
  · cases given : w.address with
    | none => simp [given] at first
    | some a =>
      rw [given,Option.elim_some,List.mem_append,List.mem_singleton] at first
      rcases first with inside | rfl
      · exact isBindingChar_of_mem_address (wellFormed.address a given) inside
      · decide
  · rw [Spelling.ports,List.mem_append] at ports
    rcases ports with host | container
    · cases given : w.host with
      | none => simp [given] at host
      | some digits =>
        rw [given,Option.elim_some,List.mem_append,List.mem_singleton] at host
        rcases host with inside | rfl
        · exact isBindingChar_of_mem_numeral (wellFormed.host digits given) inside
        · decide
    · exact isBindingChar_of_mem_numeral wellFormed.container container

theorem parse?_text (wellFormed : w.WellFormed) : parse? w.text = some w.parts := by
  have bound : binding? (w.address.elim [] (·.text ++ [':']) ++ w.ports) =
      some { w.parts with protocol := none } := by
    cases address : w.address with
    | none =>
      rw [Option.elim_none,List.nil_append,binding?_ports wellFormed,ports?_ports wellFormed]
      simp [Spelling.parts,address]
    | some a =>
      have read := binding?_address (wellFormed.address a address) w.ports
      rw [ports?_ports wellFormed] at read
      simpa [Spelling.parts,address] using read
  have slash : '/' ∉ w.address.elim [] (·.text ++ [':']) ++ w.ports := fun member =>
    absurd (isBindingChar_of_mem_front wellFormed member) (by decide)
  cases letters : w.letters with
  | none =>
    rw [Spelling.text,letters,Option.elim_none,List.append_nil,parse?,
      Text.cut?_eq_none_iff.mpr slash]
    simpa [Spelling.parts,letters] using bound
  | some l =>
    obtain ⟨nonempty,good⟩ := wellFormed.letters l letters
    have checked : (!l.isEmpty && l.all isLetter) = true := by
      simpa [nonempty,isLetter_iff] using good
    rw [Spelling.text,letters,Option.elim_some,parse?,Text.cut?_append_cons slash]
    dsimp only
    rw [if_pos checked,bound]
    simp [Spelling.parts,letters]

/-- A spelling has no blanks at all. -/
theorem trimmed_text (wellFormed : w.WellFormed) : Text.Trimmed w.text := by
  refine .of_all fun c member => ?_
  rw [Spelling.text,List.mem_append] at member
  rcases member with front | last
  · have visible : Text.isBlank c = false ∧ c ≠ '/' := by
      simpa [isBindingChar] using isBindingChar_of_mem_front wellFormed front
    exact visible.1
  · cases given : w.letters with
    | none => simp [given] at last
    | some l =>
      rw [given,Option.elim_some,List.mem_cons] at last
      rcases last with rfl | letter
      · decide
      · exact isBlank_eq_false_of_letter ((wellFormed.letters l given).2 c letter)

theorem Address.eq_of_text {a b : Address} (left : a.WellFormed) (right : b.WellFormed)
    (same : a.text = b.text) : a = b := by
  have apart {ip other : List Char} (dotted : Dotted ip) : ip ≠ '[' :: other := by
    rintro rfl
    exact absurd (mem_isDotted (isDotted_iff.mpr dotted) List.mem_cons_self) (by decide)
  cases a with
  | dotted ip =>
    cases b with
    | dotted other => exact congrArg _ same
    | bracketed other => exact absurd same (apart left)
  | bracketed ip =>
    cases b with
    | dotted other => exact absurd same.symm (apart right)
    | bracketed other => exact congrArg _ (List.append_cancel_right (List.cons.inj same).2)

/-- A text is spelled in one way at most. -/
theorem Spelling.eq_of_text {v : Spelling} (left : v.WellFormed) (right : w.WellFormed)
    (same : v.text = w.text) : v = w := by
  have parts : v.parts = w.parts :=
    Option.some.inj ((parse?_text left).symm.trans (same ▸ parse?_text right))
  obtain ⟨_,host,container,letters⟩ := ShortPort.mk.inj parts
  have front : v.address.elim [] (·.text ++ [':']) = w.address.elim [] (·.text ++ [':']) := by
    have ports : v.ports = w.ports := by rw [Spelling.ports,host,container,Spelling.ports]
    rw [Spelling.text,Spelling.text,letters,ports] at same
    exact List.append_cancel_right (List.append_cancel_right same)
  have address : v.address = w.address := by
    cases first : v.address with
    | none =>
      cases second : w.address with
      | none => rfl
      | some b => simp [first,second] at front
    | some a =>
      cases second : w.address with
      | none => simp [first,second] at front
      | some b =>
        rw [first,second] at front
        exact congrArg some (Address.eq_of_text (left.address a first) (right.address b second)
          (List.append_cancel_right front))
  cases v
  cases w
  simp_all

end Spelled

theorem portNumber?_eq_some_iff {digits : List Char} (numeral : Numeral digits) {n : Nat} :
    portNumber? digits = some n ↔ Denotes digits n := by
  have unsigned : Text.boundedNatural? 65535 digits =
      (Text.natural? 10 digits).filter (· ≤ 65535) := by
    unfold Text.boundedNatural?
    split
    next => exact absurd List.mem_cons_self (not_mem_numeral numeral (c := '+') (by decide))
    next => rfl
  have ascii (c : Char) : c.isDigit = true ↔ '0' ≤ c ∧ c ≤ '9' := Char.isDigit_iff_toNat
  simp only [portNumber?,unsigned,Option.filter_eq_some_iff,Text.natural?_eq_some_iff,
    decide_eq_true_eq,ascii]
  constructor
  · rintro ⟨⟨⟨_,decimal,value⟩,upper⟩,lower⟩
    exact ⟨decimal,value,lower,upper⟩
  · rintro ⟨decimal,value,lower,upper⟩
    exact ⟨⟨⟨numeral.1,decimal,value⟩,upper⟩,lower⟩

theorem protocolOr_eq_ok_iff {letters : Option (List Char)} {p : Protocol} :
    protocolOr (letters.map String.ofList) = .ok p ↔
      letters.elim (p = .tcp) (·.map Char.toLower = p.text.toList) := by
  cases letters with
  | none => simp [protocolOr,eq_comm]
  | some l =>
    have lower (text : String) : String.ofList (l.map Char.toLower) = text ↔
        l.map Char.toLower = text.toList := by
      rw [← String.toList_inj,String.toList_ofList]
    simp only [Option.map_some,protocolOr,Protocol.ofText,String.toList_ofList,Option.elim_some]
    split
    next same =>
      rw [(lower "tcp").mp same]
      cases p <;> simp [Protocol.text]
    next same =>
      rw [(lower "udp").mp same]
      cases p <;> simp [Protocol.text]
    next notTcp notUdp =>
      constructor
      · intro read
        cases read
      · intro same
        cases p with
        | tcp => exact absurd ((lower "tcp").mpr same) notTcp
        | udp => exact absurd ((lower "udp").mpr same) notUdp

end ShortPort

open ShortPort

section Reading

variable (service : String) {spec : String} {w : Spelling} {p : PortMapping}

/-- A spelling that stands for a port is read as this port. Only a host port that is missing is
noticed. -/
theorem readShortPort_of_means (spelled : w.Spells spec) (means : w.Means p) :
    readShortPort service spec =
      ⟨some p,if w.host = none then [.inService service (.sameHostPort p.containerPort)] else [],
        []⟩ := by
  obtain ⟨wellFormed,text⟩ := spelled
  obtain ⟨ip,hostPort,containerPort,protocol⟩ := p
  obtain ⟨rfl,container,host,known⟩ := means
  have parsed : parse? (Text.trimChars spec.toList) = some w.parts := by
    rw [← parse?_text wellFormed,text,Text.trim,String.toList_ofList]
  have container := (portNumber?_eq_some_iff wellFormed.container).mpr container
  have known := protocolOr_eq_ok_iff.mpr known
  unfold readShortPort
  rw [parsed]
  cases given : w.host with
  | none =>
    rw [given] at host
    obtain rfl : hostPort = containerPort := host
    simp only [Spelling.parts,known,container,given,Option.map_map,if_true]
    rfl
  | some digits =>
    rw [given] at host
    have host := (portNumber?_eq_some_iff (wellFormed.host digits given)).mpr host
    simp only [Spelling.parts,known,container,given,Option.map_some,host,Option.map_map,
      reduceCtorEq,if_false]
    rfl

/-- Whatever else is read as no port, with one notice. -/
theorem readShortPort_cases (spec : String) :
    (∃ (w : Spelling) (p : PortMapping), w.Spells spec ∧ w.Means p) ∨
      ∃ n, readShortPort service spec = ⟨none,[n],[]⟩ := by
  unfold readShortPort
  split
  next => exact .inr ⟨_,rfl⟩
  next parts parsed =>
    obtain ⟨w,wellFormed,text,rfl⟩ := spelled_of_parse? parsed
    have spelled : w.Spells spec := ⟨wellFormed,by rw [text,Text.trim,String.toList_ofList]⟩
    split
    next => exact .inr ⟨_,rfl⟩
    next protocol known =>
      have known := protocolOr_eq_ok_iff.mp known
      split
      next => exact .inr ⟨_,rfl⟩
      next => exact .inr ⟨_,rfl⟩
      next containerPort hostPort container host =>
        obtain ⟨digits,given,host⟩ := Option.map_eq_some_iff.mp host
        have given : w.host = some digits := given
        refine .inl ⟨w,⟨_,hostPort,containerPort,protocol⟩,spelled,rfl,?_,?_,known⟩
        · exact (portNumber?_eq_some_iff wellFormed.container).mp container
        · rw [given]
          exact (portNumber?_eq_some_iff (wellFormed.host digits given)).mp host
      next containerPort container host =>
        have given : w.host = none := Option.map_eq_none_iff.mp host
        refine .inl ⟨w,⟨_,containerPort,containerPort,protocol⟩,spelled,rfl,?_,?_,known⟩
        · exact (portNumber?_eq_some_iff wellFormed.container).mp container
        · rw [given]
          rfl

end Reading

/-- A text is read as a port exactly if it is spelled as one. Then it is spelled in one way only, the
port is the one that it stands for, and nothing is noticed but that a host port is missing. Any other
text is no port, and one thing is noticed of it. -/
theorem readShortPort_decides (service spec : String) :
    (∀ v w : Spelling, v.Spells spec → w.Spells spec → v = w) ∧
      (∀ p, (readShortPort service spec).value = some p ↔
        ∃ w : Spelling, w.Spells spec ∧ w.Means p) ∧
      (∀ (w : Spelling) (p : PortMapping), w.Spells spec → w.Means p →
        readShortPort service spec =
          ⟨some p,
            if w.host = none then [.inService service (.sameHostPort p.containerPort)] else [],[]⟩) ∧
      ((¬∃ (w : Spelling) (p : PortMapping), w.Spells spec ∧ w.Means p) →
        ∃ n, readShortPort service spec = ⟨none,[n],[]⟩) := by
  refine ⟨?_,?_,?_,?_⟩
  · rintro v w ⟨left,first⟩ ⟨right,second⟩
    exact Spelling.eq_of_text left right (first.trans second.symm)
  · intro p
    constructor
    · intro read
      rcases readShortPort_cases service spec with ⟨w,q,spelled,means⟩ | ⟨n,unread⟩
      · rw [readShortPort_of_means service spelled means] at read
        obtain rfl := Option.some.inj read
        exact ⟨w,spelled,means⟩
      · rw [unread] at read
        cases read
    · rintro ⟨w,spelled,means⟩
      rw [readShortPort_of_means service spelled means]
  · exact fun w p spelled means => readShortPort_of_means service spelled means
  · exact (readShortPort_cases service spec).resolve_left

/-- An address with colons, a number that begins with a zero, and letters of both cases. -/
def loopback : Spelling :=
  { address := some (.bracketed "::1".toList)
    host := some "08080".toList
    container := "80".toList
    letters := some "Udp".toList }

def loopbackPort : PortMapping :=
  { hostIp := some "::1", hostPort := 8080, containerPort := 80, protocol := .udp }

theorem readShortPort_decides_loopback :
    loopback.Spells " [::1]:08080:80/Udp" ∧ loopback.Means loopbackPort ∧
      readShortPort "web" " [::1]:08080:80/Udp" = ⟨some loopbackPort,[],[]⟩ := by
  have spelled : loopback.Spells " [::1]:08080:80/Udp" := by
    refine ⟨⟨?_,?_,isNumeral_iff.mp (by decide),?_⟩,by decide⟩
    · rintro _ ⟨⟩
      exact isBracketed_iff.mp (by decide)
    · rintro _ ⟨⟩
      exact isNumeral_iff.mp (by decide)
    · rintro _ ⟨⟩
      simp
  have means : loopback.Means loopbackPort :=
    ⟨rfl,⟨by simp [loopback],rfl,by decide⟩,⟨by simp,rfl,by decide⟩,rfl⟩
  obtain ⟨_,_,read,_⟩ := readShortPort_decides "web" " [::1]:08080:80/Udp"
  exact ⟨spelled,means,read loopback loopbackPort spelled means⟩

end ComposeToPodman.Compose
