import ComposeToPodman.Compose.Reading

/-! Reading the elements of a list: what comes out, and from which element. -/
namespace ComposeToPodman.Compose.Reading

variable {α β : Type}

@[simp] theorem value_map (f : α → β) (r : Reading α) : (f <$> r).value = f r.value := rfl

@[simp] theorem problems_map (f : α → β) (r : Reading α) : (f <$> r).problems = r.problems := by
  simp [Functor.map]

@[simp] theorem notices_map (f : α → β) (r : Reading α) : (f <$> r).notices = r.notices := by
  simp [Functor.map]

theorem map_mk (f : α → β) (a : α) (notices : List Notice) (problems : List Problem) :
    f <$> (⟨a,notices,problems⟩ : Reading α) = ⟨f a,notices,problems⟩ := by
  simp [Functor.map]

@[simp] theorem value_filterMap (read : α → Reading (Option β)) (l : List α) :
    (filterMap read l).value = l.filterMap fun a => (read a).value := by
  induction l with
  | nil => rfl
  | cons a rest ih => cases found : (read a).value <;> simp [filterMap,ih,found]

@[simp] theorem problems_filterMap (read : α → Reading (Option β)) (l : List α) :
    (filterMap read l).problems = l.flatMap fun a => (read a).problems := by
  induction l with
  | nil => rfl
  | cons a rest ih => simp [filterMap,ih]

@[simp] theorem notices_filterMap (read : α → Reading (Option β)) (l : List α) :
    (filterMap read l).notices = l.flatMap fun a => (read a).notices := by
  induction l with
  | nil => rfl
  | cons a rest ih => simp [filterMap,ih]

@[simp] theorem problems_notice (n : Notice) : (notice n).problems = [] := rfl
@[simp] theorem problems_warn (service : String) (n : ServiceNotice) :
    (warn service n).problems = [] := rfl
@[simp] theorem problems_skip (service : String) (n : ServiceNotice) :
    (skip service n : Reading (Option α)).problems = [] := rfl

/-- Elements that are kept, whatever is noticed of them. -/
theorem value_filterMap_eq_map {read : α → Reading (Option β)} {f : α → β} {l : List α}
    (kept : ∀ a ∈ l, (read a).value = some (f a)) : (filterMap read l).value = l.map f := by
  induction l with
  | nil => rfl
  | cons a rest ih =>
    obtain ⟨head,tail⟩ := List.forall_mem_cons.mp kept
    rw [filterMap,value_bind,value_bind,value_pure,head,ih tail]
    rfl

/-- Elements without problems make a list without problems. -/
theorem problems_filterMap_eq_nil {read : α → Reading (Option β)}
    (quiet : ∀ a, (read a).problems = []) (l : List α) : (filterMap read l).problems = [] := by
  simp [quiet]

/-- Elements that are kept without a notice or a problem. -/
theorem filterMap_eq_pure {read : α → Reading (Option β)} {f : α → β} {l : List α}
    (kept : ∀ a ∈ l, read a = pure (some (f a))) : filterMap read l = pure (l.map f) := by
  induction l with
  | nil => rfl
  | cons a rest ih =>
    obtain ⟨head,tail⟩ := List.forall_mem_cons.mp kept
    simp [filterMap,head,ih tail]

/-- Elements that are changed before they are read, with the same change to what is read. -/
theorem filterMap_map {read : α → Reading (Option β)} {f : α → α} {g : β → β}
    (same : ∀ a, read (f a) = Option.map g <$> read a) (l : List α) :
    filterMap read (l.map f) = List.map g <$> filterMap read l := by
  induction l with
  | nil => rfl
  | cons a rest ih =>
    rw [List.map_cons,filterMap,filterMap,same,ih]
    simp only [map_eq_pure_bind,bind_assoc,pure_bind]
    refine bind_congr fun found => bind_congr fun others => ?_
    cases found <;> rfl

/-- Elements that are read as other things are. -/
theorem filterMap_map_eq {γ : Type} {read : α → Reading (Option β)} {other : γ → Reading (Option β)}
    {f : γ → α} {l : List γ} (same : ∀ c ∈ l, read (f c) = other c) :
    filterMap read (l.map f) = filterMap other l := by
  induction l with
  | nil => rfl
  | cons c rest ih =>
    obtain ⟨head,tail⟩ := List.forall_mem_cons.mp same
    rw [List.map_cons,filterMap,filterMap,head,ih tail]

/-- Elements that are restored without a notice or a problem. -/
theorem filterMap_map_eq_pure {read : α → Reading (Option β)} {f : β → α} {l : List β}
    (restored : ∀ b ∈ l, read (f b) = pure (some b)) : filterMap read (l.map f) = pure l := by
  rw [filterMap_map_eq restored,filterMap_eq_pure fun _ _ => rfl,List.map_id']

@[simp] theorem value_mapM (read : α → Reading β) (l : List α) :
    (l.mapM read).value = l.map fun a => (read a).value := by
  induction l with
  | nil => rfl
  | cons a rest ih => simp [ih]

@[simp] theorem problems_mapM (read : α → Reading β) (l : List α) :
    (l.mapM read).problems = l.flatMap fun a => (read a).problems := by
  induction l with
  | nil => rfl
  | cons a rest ih => simp [ih]

theorem mapM_eq_pure {read : α → Reading α} {l : List α} (restored : ∀ a ∈ l, read a = pure a) :
    l.mapM read = pure l := by
  induction l with
  | nil => rfl
  | cons a rest ih =>
    have tail := ih fun b member => restored b (List.mem_cons_of_mem _ member)
    simp [restored a List.mem_cons_self,tail]

end ComposeToPodman.Compose.Reading
