import ComposeToPodman.Compose.Form.Decode
import ComposeToPodman.Proofs.Yaml.Prune

/-! Forms without the keys that they have no field for. They are read in the same way as with them. -/
namespace ComposeToPodman.Compose.Form

open Yaml Yaml.Decode

theorem read_field_congr {name : String} {read : Value → Result α} {set : Option α → σ → σ}
    {f : Value → Value} (null : ∀ v, f v = .null ↔ v = .null) (same : ∀ v, read (f v) = read v)
    (v : Value) (s : σ) : (field name read set).read (f v) s = (field name read set).read v s := by
  simp [field,optional_congr null same]

theorem noMapping_string : NoMapping Decode.string := fun _ => rfl

theorem noMapping_bool : NoMapping Decode.bool := fun _ => rfl

theorem noMapping_list (read : Value → Result α) : NoMapping (Decode.list .shape read) :=
  fun _ => rfl

theorem noMapping_scalar : NoMapping Scalar.ofValue := by
  intro es
  unfold Scalar.ofValue firstOf
  split <;> rfl

def prunePort : Value → Value := unlessTagged (prune LongPort.fields)

theorem ofValue_prunePort (v : Value) : Port.ofValue (prunePort v) = Port.ofValue v := by
  have inner : Inner (prune LongPort.fields) := inner_prune _
  refine firstOf_unlessTagged _ inner (List.forall_mem_cons.mpr ⟨?_,?_⟩) v
  · exact (noMapping_scalar.map Port.short).inner inner
  · refine List.forall_mem_singleton.mpr fun w => ?_
    rw [LongPort.ofValue,record_prune]

/-- A mapping without what neither a mount nor its bind options have a field for. -/
def pruneLongMount : Value → Value :=
  onEntries (fun key v => if key = "bind" then prune BindOptions.fields v else v) ∘
    prune (LongMount.fields .shape)

theorem fieldsKeep_longMount : FieldsKeep (LongMount.fields .shape)
    fun key v => if key = "bind" then prune BindOptions.fields v else v := by
  intro f member v s
  simp only [LongMount.fields,List.mem_cons,List.not_mem_nil,or_false] at member
  rcases member with rfl | rfl | rfl | rfl | rfl
  case inr.inr.inr.inr =>
    exact read_field_congr (inner_prune _).null_iff (record_prune .shape _ _ _) v s
  all_goals rfl

def pruneMount : Value → Value := unlessTagged pruneLongMount

theorem ofValue_pruneMount (v : Value) : Mount.ofValue (pruneMount v) = Mount.ofValue v := by
  have inner : Inner pruneLongMount := by
    refine (inner_onEntries fun key v plain => ?_).comp (inner_prune _)
    split
    next => exact (inner_prune _).plain v plain
    next => exact plain
  refine firstOf_unlessTagged _ inner (List.forall_mem_cons.mpr ⟨?_,?_⟩) v
  · exact (noMapping_string.map Mount.short).inner inner
  · refine List.forall_mem_singleton.mpr fun w => ?_
    rw [LongMount.ofValue,pruneLongMount,Function.comp_apply,
      record_onEntries .shape _ _ fieldsKeep_longMount,record_prune]

def pruneNetworks : Value → Value :=
  unlessTagged (onEntries fun _ => prune (Attachment.fields .shape))

theorem ofValue_pruneNetworks (v : Value) :
    Networks.ofValue (pruneNetworks v) = Networks.ofValue v := by
  have inner : Inner (onEntries fun _ => prune (Attachment.fields .shape)) :=
    inner_onEntries fun _ => (inner_prune _).plain
  refine firstOf_unlessTagged _ inner (List.forall_mem_cons.mpr ⟨?_,?_⟩) v
  · exact ((noMapping_list _).map Networks.list).inner inner
  · have same : ∀ w, Attachment.ofValue .shape (prune (Attachment.fields .shape) w) =
        Attachment.ofValue .shape w := record_prune .shape _ _ _
    refine List.forall_mem_singleton.mpr fun w => ?_
    rw [dict_onEntries .shape fun _ => optional_congr (inner_prune _).null_iff same]

def pruneDependencies : Value → Value := unlessTagged (onEntries fun _ => prune Condition.fields)

theorem ofValue_pruneDependencies (v : Value) :
    Dependencies.ofValue (pruneDependencies v) = Dependencies.ofValue v := by
  have inner : Inner (onEntries fun _ => prune Condition.fields) :=
    inner_onEntries fun _ => (inner_prune _).plain
  refine firstOf_unlessTagged _ inner (List.forall_mem_cons.mpr ⟨?_,?_⟩) v
  · exact ((noMapping_list _).map Dependencies.list).inner inner
  · have same : ∀ w, Condition.ofValue .shape (prune Condition.fields w) =
        Condition.ofValue .shape w := record_prune .shape _ _ _
    refine List.forall_mem_singleton.mpr fun w => ?_
    rw [dict_onEntries .shape fun _ => same]

def pruneExternal : Value → Value := unlessTagged (prune External.fields)

theorem ofValue_pruneExternal (v : Value) :
    External.ofValue (pruneExternal v) = External.ofValue v := by
  have inner : Inner (prune External.fields) := inner_prune _
  refine firstOf_unlessTagged _ inner (List.forall_mem_cons.mpr ⟨?_,?_⟩) v
  · exact (noMapping_bool.map External.flag).inner inner
  · refine List.forall_mem_singleton.mpr fun w => ?_
    have same := record_prune .shape "ExternalConfig" External.fields "" w
    cases w with
    | mapping es => exact congrArg (fun r => (External.named <$> r).toOption) same
    | _ => rfl

def pruneIpam : Value → Value :=
  onEntries (fun key v => if key = "config" then onItems (prune Pool.fields) v else v) ∘
    prune (Ipam.fields .alone)

theorem ofValue_pruneIpam (v : Value) :
    Ipam.ofValue .alone (pruneIpam v) = Ipam.ofValue .alone v := by
  have keep : FieldsKeep (Ipam.fields .alone)
      fun key v => if key = "config" then onItems (prune Pool.fields) v else v := by
    intro f member v s
    simp only [Ipam.fields,List.mem_cons,List.not_mem_nil,or_false] at member
    rcases member with rfl | rfl
    · rfl
    · have same : ∀ w, Pool.ofValue .alone (prune Pool.fields w) = Pool.ofValue .alone w :=
        record_prune .alone _ _ _
      simp [list_onItems .alone same]
  rw [Ipam.ofValue,pruneIpam,Function.comp_apply,record_onEntries .alone _ _ keep,record_prune]

def pruneNetwork : Value → Value :=
  onEntries (fun key v =>
    if key = "ipam" then pruneIpam v else if key = "external" then pruneExternal v else v) ∘
    prune (Network.fields .alone)

theorem ofValue_pruneNetwork (v : Value) :
    Network.ofValue .alone (pruneNetwork v) = Network.ofValue .alone v := by
  have keep : FieldsKeep (Network.fields .alone) fun key v =>
      if key = "ipam" then pruneIpam v else if key = "external" then pruneExternal v else v := by
    intro f member v s
    simp only [Network.fields,List.mem_cons,List.not_mem_nil,or_false] at member
    rcases member with rfl | rfl | rfl | rfl | rfl
    case inr.inl =>
      have null (w : Value) : pruneIpam w = .null ↔ w = .null := by
        rw [pruneIpam,Function.comp_apply,onEntries_eq_null_iff,(inner_prune _).null_iff]
      exact read_field_congr null ofValue_pruneIpam v s
    case inr.inr.inl =>
      exact read_field_congr (inner_unlessTagged (inner_prune _)).null_iff ofValue_pruneExternal v s
    all_goals rfl
  rw [Network.ofValue,pruneNetwork,Function.comp_apply,record_onEntries .alone _ _ keep,
    record_prune]

def pruneVolume : Value → Value :=
  onEntries (fun key v => if key = "external" then pruneExternal v else v) ∘ prune Volume.fields

theorem ofValue_pruneVolume (v : Value) :
    Volume.ofValue .alone (pruneVolume v) = Volume.ofValue .alone v := by
  have keep : FieldsKeep Volume.fields
      fun key v => if key = "external" then pruneExternal v else v := by
    intro f member v s
    simp only [Volume.fields,List.mem_cons,List.not_mem_nil,or_false] at member
    rcases member with rfl | rfl | rfl
    case inr.inl =>
      exact read_field_congr (inner_unlessTagged (inner_prune _)).null_iff ofValue_pruneExternal v s
    all_goals rfl
  rw [Volume.ofValue,pruneVolume,Function.comp_apply,record_onEntries .alone _ _ keep,record_prune]

end ComposeToPodman.Compose.Form
