import ComposeToPodman.Proofs.Compose.Entries
import ComposeToPodman.Proofs.Dict
import ComposeToPodman.Proofs.Text

/-! Lists and maps. A setting of a service that may be a list or a map is the same in both forms,
whatever the order of the list. -/
namespace ComposeToPodman.Compose

/-- `key=value`. -/
def assignment (key value : String) : String := key ++ "=" ++ value

theorem assignment?_assignment {key : String} (plain : '=' ∉ key.toList) (value : String) :
    assignment? (assignment key value) = some (key,value) := by
  simp [assignment?,Text.cutText?,assignment,Text.cut?_append_cons plain]

theorem assignment?_bare {key : String} (plain : '=' ∉ key.toList) : assignment? key = none := by
  simp [assignment?,Text.cutText?,Text.cut?_eq_none_iff.mpr plain]

/-- Keys that can be told from what follows them in a list. -/
def Dict.Assignable (values : Dict α) : Prop := ∀ key ∈ values.keys, '=' ∉ key.toList

theorem Dict.Assignable.key {values : Dict α} (assignable : Dict.Assignable values)
    {listed : List (String × α)} (order : listed.Perm values.entries) {e : String × α}
    (member : e ∈ listed) : '=' ∉ e.1.toList :=
  assignable e.1 (List.mem_map_of_mem (order.mem_iff.mp member))

/-- A variable in the list form; one without a value is its key alone. -/
def variableItem (e : String × Option Form.Scalar) : String :=
  e.2.elim e.1 fun v => assignment e.1 v.asText

def readVariable (service : String) (e : String × Option Form.Scalar) :
    Reading (Option (String × String)) :=
  match e.2 with
  | some v => return some (e.1,v.asText)
  | none => .skip service (.unsetVariable e.1)

def setVariables (listed : List (String × Option Form.Scalar)) : List (String × String) :=
  listed.filterMap fun e => e.2.map fun v => (e.1,v.asText)

/-- The notices of those that have none. -/
def unsetNotices (service : String) (listed : List (String × Option Form.Scalar)) : List Notice :=
  (listed.filter (·.2.isNone)).map fun e => .inService service (.unsetVariable e.1)

theorem filterMap_readVariable (service : String) (listed : List (String × Option Form.Scalar)) :
    Reading.filterMap (readVariable service) listed =
      ⟨setVariables listed,unsetNotices service listed,[]⟩ := by
  -- By induction on the variables: each is kept, or left out with its notice.
  induction listed with
  | nil => rfl
  | cons e rest ih =>
    obtain ⟨key,value⟩ := e
    rw [Reading.filterMap,ih]
    cases value with
    | none => simp [bind,pure,readVariable,Reading.skip,Reading.warn,Reading.notice,setVariables,
        unsetNotices]
    | some v => simp [bind,pure,readVariable,setVariables,unsetNotices]

section Environment

variable {values : Dict (Option Form.Scalar)} {listed : List (String × Option Form.Scalar)}

theorem nodup_setVariables (values : Dict (Option Form.Scalar)) :
    ((setVariables values.entries).map Prod.fst).Nodup := by
  have keys : ((setVariables values.entries).map Prod.fst).Sublist values.keys := by
    unfold setVariables Dict.keys
    induction values.entries with
    | nil => exact .slnil
    | cons e rest ih =>
      obtain ⟨key,value⟩ := e
      cases value with
      | none => exact ih.cons key
      | some v => exact ih.cons_cons key
  exact keys.nodup values.nodup_keys

theorem mem_environment_iff {key value : String} :
    (key,value) ∈ (dictOf (setVariables values.entries)).entries ↔
      ∃ v, (key,some v) ∈ values.entries ∧ v.asText = value := by
  rw [dictOf,Dict.mem_ofList_iff (nodup_setVariables values),setVariables,List.mem_filterMap]
  constructor
  · rintro ⟨⟨key',value'⟩,member,given⟩
    obtain ⟨v,rfl,same⟩ := Option.map_eq_some_iff.mp given
    obtain ⟨rfl,text⟩ := Prod.mk.inj same
    exact ⟨v,member,text⟩
  · rintro ⟨v,member,rfl⟩
    exact ⟨_,member,rfl⟩

theorem readEnvironment_map (service : String) (values : Dict (Option Form.Scalar)) :
    readEnvironment service (.map values) =
      ⟨dictOf (setVariables values.entries),unsetNotices service values.entries,[]⟩ := by
  change dictOf <$> Reading.filterMap (readVariable service) values.entries = _
  rw [filterMap_readVariable,Reading.map_mk]

/-- The same variables, and the notices in the order of the list. -/
theorem readEnvironment_list (assignable : Dict.Assignable values)
    (order : listed.Perm values.entries) (service : String) :
    readEnvironment service (.list (listed.map variableItem)) =
      ⟨dictOf (setVariables values.entries),unsetNotices service listed,[]⟩ := by
  have same : dictOf (setVariables values.entries) = dictOf (setVariables listed) :=
    Dict.ofList_perm (nodup_setVariables values) (order.filterMap _).symm
  rw [readEnvironment,Reading.filterMap_map_eq,filterMap_readVariable service,Reading.map_mk,same]
  intro e member
  have plain := assignable.key order member
  obtain ⟨key,value⟩ := e
  cases value with
  | none => simp [variableItem,assignment?_bare plain,readVariable]
  | some v => simp [variableItem,assignment?_assignment plain,readVariable]

theorem unsetNotices_perm (order : listed.Perm values.entries) (service : String) :
    (unsetNotices service listed).Perm (unsetNotices service values.entries) :=
  (order.filter _).map _

end Environment

section Labels

variable {values : Dict Form.Scalar} {listed : List (String × Form.Scalar)}

def labelItem (e : String × Form.Scalar) : String := assignment e.1 e.2.asText

theorem nodup_labels (values : Dict Form.Scalar) :
    ((values.entries.map fun e => (e.1,e.2.asText)).map Prod.fst).Nodup := by
  rw [List.map_map]
  exact values.nodup_keys

theorem mem_labelsOf_iff {key value : String} :
    (key,value) ∈ (labelsOf (.map values)).entries ↔
      ∃ v, (key,v) ∈ values.entries ∧ v.asText = value := by
  rw [labelsOf,dictOf,Dict.mem_ofList_iff (nodup_labels values),List.mem_map]
  constructor
  · rintro ⟨e,member,told⟩
    obtain ⟨rfl,text⟩ := Prod.mk.inj told
    exact ⟨e.2,member,text⟩
  · rintro ⟨v,member,rfl⟩
    exact ⟨_,member,rfl⟩

theorem labelsOf_list (assignable : Dict.Assignable values) (order : listed.Perm values.entries) :
    labelsOf (.list (listed.map labelItem)) = labelsOf (.map values) := by
  have read : (listed.map labelItem).map (fun item => (assignment? item).getD (item,"")) =
      listed.map fun e => (e.1,e.2.asText) := by
    rw [List.map_map]
    refine List.map_congr_left fun e member => ?_
    simp [labelItem,assignment?_assignment (assignable.key order member)]
  rw [labelsOf,read]
  exact (Dict.ofList_perm (nodup_labels values) (order.map _).symm).symm

end Labels

/-- A condition that asks for no more than the order of starting. -/
def Form.Condition.IsPlain (c : Form.Condition) : Prop :=
  c.condition = none ∨ c.condition = some "service_started"

theorem readDependencies_map {conditions : Dict Form.Condition}
    (plain : ∀ e ∈ conditions.entries, e.2.IsPlain) (service : String) :
    readDependencies service (.map conditions) = pure conditions.keys := by
  refine Reading.filterMap_eq_pure fun e member => ?_
  have quiet : e.2.condition.filter (· != "service_started") = none := by
    rcases plain e member with absent | started
    · simp [absent]
    · simp [started]
  simp [quiet]

theorem readNetworks_map {attachments : Dict (Option Form.Attachment)}
    (plain : ∀ e ∈ attachments.entries, ∀ a, e.2 = some a → a.isCustomized = false)
    (service : String) : readNetworks service (.map attachments) = pure attachments.keys := by
  refine Reading.filterMap_eq_pure fun e member => ?_
  have quiet : (e.2.map Form.Attachment.isCustomized).getD false = false := by
    cases given : e.2 with
    | none => rfl
    | some a => exact plain e member a given
  simp [quiet]

/-- The names that a form of `networks` gives. -/
def Form.Networks.names : Form.Networks → List String
  | .list names => names
  | .map attachments => attachments.keys

theorem value_readNetworks (service : String) (form : Form.Networks) :
    (readNetworks service form).value = form.names := by
  cases form with
  | list names => rfl
  | map attachments =>
    refine Reading.value_filterMap_eq_map fun e _ => ?_
    dsimp only
    split <;> rfl

end ComposeToPodman.Compose
