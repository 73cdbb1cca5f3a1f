import ComposeToPodman.Proofs.Compose.Records
import ComposeToPodman.Proofs.Yaml.Choice

/-! Forms as values, and read again. A form that fits its type is read from its value as it was, alone
or as a shape; and whatever is read fits. Where a setting has several forms, no value is of two. -/
namespace ComposeToPodman.Compose.Form

open Yaml Yaml.Decode

/-- An integer has 64 bits with a sign. -/
def Scalar.Fits : Scalar → Prop
  | .int i => -0x8000000000000000 ≤ i ∧ i < 0x8000000000000000
  | _ => True

theorem Scalar.fits_of_ofValue {v : Value} {s : Scalar} (decoded : Scalar.ofValue v = .ok s) :
    s.Fits := by
  obtain ⟨shape,member,reads⟩ := exists_of_firstOf decoded
  simp only [shapes,List.mem_cons,List.not_mem_nil,or_false] at member
  rcases member with rfl | rfl | rfl | rfl
  · obtain ⟨b,-,rfl⟩ := ok_of_map reads
    trivial
  · dsimp only at reads
    split at reads
    · split at reads
      next small => exact Except.ok.inj reads ▸ small
      next => cases reads
    · cases reads
  · dsimp only at reads
    split at reads
    · exact Except.ok.inj reads ▸ trivial
    · exact Except.ok.inj reads ▸ trivial
    · cases reads
  · obtain ⟨t,-,rfl⟩ := ok_of_map reads
    trivial

/-- The second shape of an integer is one with a sign, the third a floating point number. -/
theorem Scalar.ofValue_int (i : Int) : Scalar.ofValue (.number (.int i)) =
    .ok (if -0x8000000000000000 ≤ i ∧ i < 0x8000000000000000 then .int i else .float (.ofInt i)) := by
  have tag : hasTag (.number (.int i)) = false := rfl
  rw [Scalar.ofValue,shapes,firstOf_later rfl]
  split
  next small => exact firstOf_first tag (if_pos small)
  next large =>
    rw [firstOf_later (if_neg large)]
    exact firstOf_first tag rfl

theorem Scalar.ofValue_toValue {s : Scalar} (fits : s.Fits) : Scalar.ofValue s.toValue = .ok s := by
  cases s with
  | int i => exact (ofValue_int i).trans (congrArg _ (if_pos fits))
  | _ => rfl

theorem ofKinds_scalar : OfKinds [.flag,.number,.text] Scalar.ofValue := by
  intro v s decoded
  have plain := hasTag_of_firstOf decoded
  cases v with
  | bool | number | string => simp [Value.kind]
  | tagged => cases plain
  | _ =>
    obtain ⟨shape,member,reads⟩ := exists_of_firstOf decoded
    simp only [Scalar.shapes,List.mem_cons,List.not_mem_nil,or_false] at member
    rcases member with rfl | rfl | rfl | rfl <;> cases reads

@[simp] theorem Scalar.hasTag_toValue (s : Scalar) : hasTag s.toValue = false := by
  cases s <;> rfl

theorem Scalar.toValue_ne_null (s : Scalar) : s.toValue ≠ .null := by
  cases s <;> exact nofun

@[simp] theorem optional_text (s : Option String) :
    optional string (optionalValue textValue s) = .ok s :=
  optional_optionalValue fun _ _ => ⟨nofun,rfl⟩

@[simp] theorem optional_flag (b : Option Bool) : optional bool (optionalValue .bool b) = .ok b :=
  optional_optionalValue fun _ _ => ⟨nofun,rfl⟩

theorem list_textValue (m : Mode) (l : List String) :
    list m string (listValue textValue l) = .ok l :=
  list_listValue m fun _ _ => rfl

theorem BindOptions.ofValue_toValue (m : Mode) (b : BindOptions) :
    BindOptions.ofValue m b.toValue = .ok b := by
  unfold BindOptions.ofValue BindOptions.toValue
  rw [record_recordValue m _ rfl (by decide)]
  simp [readField,fields,field]

theorem LongMount.ofValue_toValue (m : Mode) (l : LongMount) :
    LongMount.ofValue m l.toValue = .ok l := by
  have bind : optional (BindOptions.ofValue m) (optionalValue BindOptions.toValue l.bind) =
      .ok l.bind := optional_optionalValue fun b _ => ⟨nofun,BindOptions.ofValue_toValue m b⟩
  unfold LongMount.ofValue LongMount.toValue
  rw [record_recordValue m _ rfl (by cases m <;> decide)]
  simp [readField,fields,field,bind]

theorem Attachment.ofValue_toValue (m : Mode) (a : Attachment) :
    Attachment.ofValue m a.toValue = .ok a := by
  have aliases : optional (list m string) (optionalValue (listValue textValue) a.aliases) =
      .ok a.aliases := optional_optionalValue fun l _ => ⟨nofun,list_textValue m l⟩
  unfold Attachment.ofValue Attachment.toValue
  rw [record_recordValue m _ rfl (by cases m <;> decide)]
  simp [readField,fields,field,aliases]

theorem Condition.ofValue_toValue (m : Mode) (c : Condition) :
    Condition.ofValue m c.toValue = .ok c := by
  unfold Condition.ofValue Condition.toValue
  rw [record_recordValue m _ rfl (by decide)]
  simp [readField,fields,field]

theorem Pool.ofValue_toValue (m : Mode) (p : Pool) : Pool.ofValue m p.toValue = .ok p := by
  unfold Pool.ofValue Pool.toValue
  rw [record_recordValue m _ rfl (by decide)]
  simp [readField,fields,field]

theorem Ipam.ofValue_toValue (m : Mode) (i : Ipam) : Ipam.ofValue m i.toValue = .ok i := by
  have pools : list m (Pool.ofValue m) (listValue Pool.toValue i.pools) = .ok i.pools :=
    list_listValue m fun p _ => Pool.ofValue_toValue m p
  unfold Ipam.ofValue Ipam.toValue
  rw [record_recordValue m _ rfl (by cases m <;> decide)]
  simp [readField,fields,field,pools]

/-- The number of a port has 16 bits. -/
structure LongPort.Fits (p : LongPort) : Prop where
  target : p.target < 0x10000
  published : ∀ s ∈ p.published, s.Fits

theorem word16_lt {v : Value} {n : Nat} (decoded : word16 v = .ok n) : n < 0x10000 := by
  unfold word16 at decoded
  split at decoded
  · split at decoded
    next bounds =>
      obtain rfl := Except.ok.inj decoded
      omega
    next => cases decoded
  · cases decoded

theorem word16_of_lt {n : Nat} (small : n < 0x10000) : word16 (.number (.int n)) = .ok n := by
  have bounds : (0 : Int) ≤ n ∧ (n : Int) < 0x10000 := by omega
  simp only [word16,Value.untagged,if_pos bounds,Int.toNat_natCast]

theorem LongPort.fits_of_ofValue {m : Mode} {v : Value} {p : LongPort}
    (decoded : LongPort.ofValue m v = .ok p) : p.Fits := by
  have first : LongPort.Fits { target := 0 } := ⟨by decide,fun _ given => by cases given⟩
  refine record_invariant first ?_ decoded
  intro f member v p q fits read
  simp only [LongPort.fields,List.mem_cons,List.not_mem_nil,or_false] at member
  rcases member with rfl | rfl | rfl | rfl | rfl <;> obtain ⟨a,told,same⟩ := ok_of_bind read <;>
    obtain rfl := Except.ok.inj same
  · exact ⟨word16_lt told,fits.published⟩
  · exact ⟨fits.target,fun s given => Scalar.fits_of_ofValue (read_of_mem_optional told given)⟩
  all_goals exact ⟨fits.target,fits.published⟩

theorem LongPort.ofValue_toValue (m : Mode) {p : LongPort} (fits : p.Fits) :
    LongPort.ofValue m p.toValue = .ok p := by
  have target := word16_of_lt fits.target
  have published : optional Scalar.ofValue (optionalValue Scalar.toValue p.published) =
      .ok p.published := optional_optionalValue fun s given =>
    ⟨s.toValue_ne_null,Scalar.ofValue_toValue (fits.published s given)⟩
  unfold LongPort.ofValue LongPort.toValue
  rw [record_recordValue m _ rfl (by decide)]
  simp [readField,fields,field,target,published]

@[simp] theorem LongPort.hasTag_toValue (p : LongPort) : hasTag p.toValue = false := by
  simp [LongPort.toValue,hasTag]

@[simp] theorem BindOptions.hasTag_toValue (b : BindOptions) : hasTag b.toValue = false := by
  simp [BindOptions.toValue]

@[simp] theorem LongMount.hasTag_toValue (l : LongMount) : hasTag l.toValue = false := by
  have flag : hasTag (optionalValue .bool l.readOnly) = false :=
    hasTag_optionalValue (fun _ => rfl) l.readOnly
  simp [LongMount.toValue,hasTag,flag]

@[simp] theorem Attachment.hasTag_toValue (a : Attachment) : hasTag a.toValue = false := by
  simp [Attachment.toValue]

@[simp] theorem Condition.hasTag_toValue (c : Condition) : hasTag c.toValue = false := by
  simp [Condition.toValue]

theorem Command.unambiguous : Unambiguous "CommandConfig" Command.shapes Command.ofValue :=
  unambiguous_pair rfl (ofKinds_string.map _) ((ofKinds_list _).map _) (by decide)

theorem Command.ofValue_toValue (c : Command) : Command.ofValue c.toValue = .ok c := by
  cases c with
  | shell line => rfl
  | words ws =>
    refine Command.unambiguous.reads (by simp [Command.toValue]) (.tail _ (.head _)) ?_
    exact congrArg (Functor.map Command.words) (list_textValue .shape ws)

theorem Environment.unambiguous :
    Unambiguous "EnvironmentConfig" Environment.shapes Environment.ofValue :=
  unambiguous_pair rfl ((ofKinds_list _).map _) ((ofKinds_dict _).map _) (by decide)

def Environment.Fits : Environment → Prop
  | .list _ => True
  | .map values => ∀ e ∈ values.entries, ∀ s ∈ e.2, s.Fits

theorem Environment.fits_of_ofValue {v : Value} {c : Environment}
    (decoded : Environment.ofValue v = .ok c) : c.Fits := by
  rcases reads_of_firstOf_pair decoded with reads | reads
  · obtain ⟨items,-,rfl⟩ := ok_of_map reads
    trivial
  · obtain ⟨values,told,rfl⟩ := ok_of_map reads
    intro e inside s given
    obtain ⟨w,read⟩ := read_of_mem_dict told inside
    exact Scalar.fits_of_ofValue (read_of_mem_optional read given)

theorem Environment.ofValue_toValue {c : Environment} (fits : c.Fits) :
    Environment.ofValue c.toValue = .ok c := by
  cases c with
  | list items =>
    refine Environment.unambiguous.reads (by simp [Environment.toValue]) (.head _) ?_
    exact congrArg (Functor.map Environment.list) (list_textValue .shape items)
  | map values =>
    refine Environment.unambiguous.reads (by simp [Environment.toValue]) (.tail _ (.head _)) ?_
    refine congrArg (Functor.map Environment.map) (dict_dictValue .shape fun e inside => ?_)
    exact optional_optionalValue fun s given =>
      ⟨s.toValue_ne_null,Scalar.ofValue_toValue (fits e inside s given)⟩

theorem Port.unambiguous : Unambiguous "PortConfig" Port.shapes Port.ofValue :=
  unambiguous_pair rfl (ofKinds_scalar.map _) ((ofKinds_record _ _ _).map _) (by decide)

def Port.Fits : Port → Prop
  | .short spec => spec.Fits
  | .long port => port.Fits

theorem Port.fits_of_ofValue {v : Value} {p : Port} (decoded : Port.ofValue v = .ok p) :
    p.Fits := by
  rcases reads_of_firstOf_pair decoded with reads | reads
  · obtain ⟨spec,told,rfl⟩ := ok_of_map reads
    exact Scalar.fits_of_ofValue told
  · obtain ⟨port,told,rfl⟩ := ok_of_map reads
    exact LongPort.fits_of_ofValue told

theorem Port.ofValue_toValue {p : Port} (fits : p.Fits) : Port.ofValue p.toValue = .ok p := by
  cases p with
  | short spec =>
    refine Port.unambiguous.reads spec.hasTag_toValue (.head _) ?_
    exact congrArg (Functor.map Port.short) (Scalar.ofValue_toValue fits)
  | long port =>
    refine Port.unambiguous.reads port.hasTag_toValue (.tail _ (.head _)) ?_
    exact congrArg (Functor.map Port.long) (LongPort.ofValue_toValue .shape fits)

theorem Mount.unambiguous : Unambiguous "VolumeMountConfig" Mount.shapes Mount.ofValue :=
  unambiguous_pair rfl (ofKinds_string.map _) ((ofKinds_record _ _ _).map _) (by decide)

theorem Mount.ofValue_toValue (c : Mount) : Mount.ofValue c.toValue = .ok c := by
  cases c with
  | short spec => rfl
  | long mount =>
    refine Mount.unambiguous.reads mount.hasTag_toValue (.tail _ (.head _)) ?_
    exact congrArg (Functor.map Mount.long) (LongMount.ofValue_toValue .shape mount)

theorem Networks.unambiguous : Unambiguous "NetworksConfig" Networks.shapes Networks.ofValue :=
  unambiguous_pair rfl ((ofKinds_list _).map _) ((ofKinds_dict _).map _) (by decide)

theorem Networks.ofValue_toValue (c : Networks) : Networks.ofValue c.toValue = .ok c := by
  cases c with
  | list names =>
    refine Networks.unambiguous.reads (by simp [Networks.toValue]) (.head _) ?_
    exact congrArg (Functor.map Networks.list) (list_textValue .shape names)
  | map attachments =>
    refine Networks.unambiguous.reads (by simp [Networks.toValue]) (.tail _ (.head _)) ?_
    refine congrArg (Functor.map Networks.map) (dict_dictValue .shape fun e _ => ?_)
    exact optional_optionalValue fun a _ => ⟨nofun,Attachment.ofValue_toValue .shape a⟩

theorem Dependencies.unambiguous :
    Unambiguous "DependsOnConfig" Dependencies.shapes Dependencies.ofValue :=
  unambiguous_pair rfl ((ofKinds_list _).map _) ((ofKinds_dict _).map _) (by decide)

theorem Dependencies.ofValue_toValue (c : Dependencies) :
    Dependencies.ofValue c.toValue = .ok c := by
  cases c with
  | list names =>
    refine Dependencies.unambiguous.reads (by simp [Dependencies.toValue]) (.head _) ?_
    exact congrArg (Functor.map Dependencies.list) (list_textValue .shape names)
  | map conditions =>
    refine Dependencies.unambiguous.reads (by simp [Dependencies.toValue]) (.tail _ (.head _)) ?_
    exact congrArg (Functor.map Dependencies.map)
      (dict_dictValue .shape fun e _ => Condition.ofValue_toValue .shape e.2)

theorem Labels.unambiguous : Unambiguous "LabelsConfig" Labels.shapes Labels.ofValue :=
  unambiguous_pair rfl ((ofKinds_list _).map _) ((ofKinds_dict _).map _) (by decide)

def Labels.Fits : Labels → Prop
  | .list _ => True
  | .map values => ∀ e ∈ values.entries, e.2.Fits

theorem Labels.fits_of_ofValue {v : Value} {c : Labels} (decoded : Labels.ofValue v = .ok c) :
    c.Fits := by
  rcases reads_of_firstOf_pair decoded with reads | reads
  · obtain ⟨items,-,rfl⟩ := ok_of_map reads
    trivial
  · obtain ⟨values,told,rfl⟩ := ok_of_map reads
    intro e inside
    obtain ⟨w,read⟩ := read_of_mem_dict told inside
    exact Scalar.fits_of_ofValue read

theorem Labels.ofValue_toValue {c : Labels} (fits : c.Fits) : Labels.ofValue c.toValue = .ok c := by
  cases c with
  | list items =>
    refine Labels.unambiguous.reads (by simp [Labels.toValue]) (.head _) ?_
    exact congrArg (Functor.map Labels.list) (list_textValue .shape items)
  | map values =>
    refine Labels.unambiguous.reads (by simp [Labels.toValue]) (.tail _ (.head _)) ?_
    exact congrArg (Functor.map Labels.map)
      (dict_dictValue .shape fun e inside => Scalar.ofValue_toValue (fits e inside))

/-- The shapes of a resource that may be external: a name is given in a mapping only. -/
theorem External.unambiguous : Unambiguous "ExternalConfig" External.shapes External.ofValue := by
  refine unambiguous_pair rfl (ofKinds_bool.map _) (?_ : OfKinds [.mapping] _) (by decide)
  intro v c decoded
  cases v with
  | mapping => simp [Value.kind]
  | _ => cases decoded

theorem External.ofValue_toValue (c : External) : External.ofValue c.toValue = .ok c := by
  cases c with
  | flag b => rfl
  | named name =>
    have fields : record .shape "ExternalConfig" External.fields ""
        (recordValue [("name",.string name)]) = .ok name := by
      rw [record_recordValue .shape _ rfl (by decide)]
      rfl
    refine External.unambiguous.reads (by simp [External.toValue,hasTag]) (.tail _ (.head _)) ?_
    exact congrArg (Functor.map External.named) fields

theorem optional_external (c : Option External) :
    optional External.ofValue (optionalValue External.toValue c) = .ok c := by
  refine optional_optionalValue fun e _ => ⟨?_,External.ofValue_toValue e⟩
  cases e <;> exact nofun

theorem Network.ofValue_toValue (m : Mode) (n : Network) : Network.ofValue m n.toValue = .ok n := by
  have ipam : optional (Ipam.ofValue m) (optionalValue Ipam.toValue n.ipam) = .ok n.ipam :=
    optional_optionalValue fun i _ => ⟨nofun,Ipam.ofValue_toValue m i⟩
  unfold Network.ofValue Network.toValue
  rw [record_recordValue m _ rfl (by cases m <;> decide)]
  simp [readField,fields,field,ipam,optional_external]

theorem Volume.ofValue_toValue (m : Mode) (v : Volume) : Volume.ofValue m v.toValue = .ok v := by
  unfold Volume.ofValue Volume.toValue
  rw [record_recordValue m _ rfl (by decide)]
  simp [readField,fields,field,optional_external]

/-- What has been read is read from its value again. -/
def Stable {α : Type} (read : Value → Result α) (write : α → Value) : Prop :=
  ∀ v a, read v = .ok a → read (write a) = .ok a

theorem Stable.ofSame {α : Type} {read : Value → Result α} {write : α → Value}
    (same : ∀ a, read (write a) = .ok a) : Stable read write := fun _ a _ => same a

/-- No value is of two forms of a setting, whatever their order, and every form is stable, whether it
is read alone or as a shape. Scalars are no such choice: an integer is a floating point number as
well, and their order tells them apart. -/
theorem choices_unambiguous_and_forms_stable (m : Mode) :
    (Unambiguous "CommandConfig" Command.shapes Command.ofValue ∧
      Unambiguous "EnvironmentConfig" Environment.shapes Environment.ofValue ∧
      Unambiguous "PortConfig" Port.shapes Port.ofValue ∧
      Unambiguous "VolumeMountConfig" Mount.shapes Mount.ofValue ∧
      Unambiguous "NetworksConfig" Networks.shapes Networks.ofValue ∧
      Unambiguous "DependsOnConfig" Dependencies.shapes Dependencies.ofValue ∧
      Unambiguous "LabelsConfig" Labels.shapes Labels.ofValue ∧
      Unambiguous "ExternalConfig" External.shapes External.ofValue) ∧
    (Stable Scalar.ofValue Scalar.toValue ∧
      Stable Command.ofValue Command.toValue ∧
      Stable Environment.ofValue Environment.toValue ∧
      Stable Port.ofValue Port.toValue ∧
      Stable Mount.ofValue Mount.toValue ∧
      Stable Networks.ofValue Networks.toValue ∧
      Stable Dependencies.ofValue Dependencies.toValue ∧
      Stable Labels.ofValue Labels.toValue ∧
      Stable External.ofValue External.toValue) ∧
    Stable (LongPort.ofValue m) LongPort.toValue ∧
    Stable (LongMount.ofValue m) LongMount.toValue ∧
    Stable (BindOptions.ofValue m) BindOptions.toValue ∧
    Stable (Attachment.ofValue m) Attachment.toValue ∧
    Stable (Condition.ofValue m) Condition.toValue ∧
    Stable (Network.ofValue m) Network.toValue ∧
    Stable (Ipam.ofValue m) Ipam.toValue ∧
    Stable (Pool.ofValue m) Pool.toValue ∧
    Stable (Volume.ofValue m) Volume.toValue := by
  refine ⟨⟨Command.unambiguous,Environment.unambiguous,Port.unambiguous,Mount.unambiguous,
    Networks.unambiguous,Dependencies.unambiguous,Labels.unambiguous,External.unambiguous⟩,?_,?_⟩
  · refine ⟨?_,.ofSame Command.ofValue_toValue,?_,?_,.ofSame Mount.ofValue_toValue,
      .ofSame Networks.ofValue_toValue,.ofSame Dependencies.ofValue_toValue,?_,
      .ofSame External.ofValue_toValue⟩
    · exact fun _ _ decoded => Scalar.ofValue_toValue (Scalar.fits_of_ofValue decoded)
    · exact fun _ _ decoded => Environment.ofValue_toValue (Environment.fits_of_ofValue decoded)
    · exact fun _ _ decoded => Port.ofValue_toValue (Port.fits_of_ofValue decoded)
    · exact fun _ _ decoded => Labels.ofValue_toValue (Labels.fits_of_ofValue decoded)
  · refine ⟨?_,.ofSame (LongMount.ofValue_toValue m),.ofSame (BindOptions.ofValue_toValue m),
      .ofSame (Attachment.ofValue_toValue m),.ofSame (Condition.ofValue_toValue m),
      .ofSame (Network.ofValue_toValue m),.ofSame (Ipam.ofValue_toValue m),
      .ofSame (Pool.ofValue_toValue m),.ofSame (Volume.ofValue_toValue m)⟩
    exact fun _ _ decoded => LongPort.ofValue_toValue m (LongPort.fits_of_ofValue decoded)

end ComposeToPodman.Compose.Form
