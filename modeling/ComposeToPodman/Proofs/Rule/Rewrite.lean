import ComposeToPodman.Proofs.Dict
import ComposeToPodman.Proofs.Text
import ComposeToPodman.Rule

/-! What the rules do to a document. Four of them change each service by itself, and changing a
service again changes nothing. The fifth finds the same namespaces missing before and after. -/
namespace ComposeToPodman.Rule

open Compose

theorem source_replaceSocket (m : Mount) : (replaceSocket m).source ≠ dockerSocket := by
  unfold replaceSocket
  split
  next => change podmanSocket ≠ dockerSocket; decide
  next other => exact other

theorem replaceSocket_eq_self {m : Mount} (other : m.source ≠ dockerSocket) : replaceSocket m = m :=
  if_neg other

@[simp] theorem source_relabel (option : String) (m : Mount) :
    (relabel option m).source = m.source := by
  unfold relabel
  split <;> rfl

@[simp] theorem target_relabel (option : String) (m : Mount) :
    (relabel option m).target = m.target := by
  unfold relabel
  split <;> rfl

@[simp] theorem target_replaceSocket (m : Mount) : (replaceSocket m).target = m.target := by
  unfold replaceSocket
  split <;> rfl

theorem hasRelabel_of_insert (r : Relabel) (m : Mount) :
    { m with options := m.options.insert r.option }.hasRelabel = true := by
  have inserted : (m.options.insert r.option).contains r.option = true :=
    Dict.contains_iff.mpr (TextSet.mem_insert_self _ _)
  unfold Mount.hasRelabel
  cases r <;> simp_all [Relabel.option]

theorem relabel_relabel (r : Relabel) (m : Mount) :
    relabel r.option (relabel r.option m) = relabel r.option m := by
  unfold relabel
  split
  next => simp [hasRelabel_of_insert]
  next => rfl

/-- What the rules make of a mount. -/
def rewriteMount (o : Options) (m : Mount) : Mount := relabel o.relabel.option (replaceSocket m)

/-- The source of a mount after the rules: only the Docker socket has another one. -/
def renamed (source : String) : String := if source = dockerSocket then podmanSocket else source

theorem source_rewriteMount (o : Options) (m : Mount) :
    (rewriteMount o m).source = renamed m.source := by
  rw [rewriteMount,source_relabel,replaceSocket,renamed]
  split <;> rfl

theorem kind_rewriteMount (o : Options) (m : Mount) : (rewriteMount o m).kind = m.kind := by
  unfold rewriteMount relabel replaceSocket
  split <;> split <;> rfl

@[simp] theorem rewriteMount_rewriteMount (o : Options) (m : Mount) :
    rewriteMount o (rewriteMount o m) = rewriteMount o m := by
  have other : (rewriteMount o m).source ≠ dockerSocket := by
    simpa [rewriteMount] using source_replaceSocket m
  rw [rewriteMount,replaceSocket_eq_self other]
  exact relabel_relabel o.relabel (replaceSocket m)

theorem ofImage_hubLibrary (image : String) :
    Reference.ofImage (hubLibrary ++ image) = .qualified := by
  have host : '/' ∉ "docker.io".toList := by decide
  have whole : (hubLibrary ++ image).toList =
      "docker.io".toList ++ '/' :: ("library/" ++ image).toList := by simp [hubLibrary]
  rw [Reference.ofImage,whole,Text.cut?_append_cons host]
  rfl

@[simp] theorem qualify_qualify (image : String) : qualify (qualify image) = qualify image := by
  unfold qualify
  split
  next => rw [ofImage_hubLibrary,if_neg (by decide)]
  next => rfl

@[simp] theorem restrict_podmanCompose (p : RestartPolicy) : restrict .podmanCompose p = p := by
  cases p with
  | onFailure retries => cases retries <;> rfl
  | _ => rfl

def rewriteService (c : Context) (s : Service) : Service :=
  { s with
    image := qualify s.image
    mounts := s.mounts.map (rewriteMount c.options)
    restart := s.restart.map (restrict c.format) }

def rewrite (c : Context) (d : Document) : Document :=
  { d with services := d.services.map (rewriteService c) }

/-- Rewriting for a compose file comes down to nothing before any other rewriting. -/
theorem rewriteService_rewriteService (f : Format) (o : Options) (s : Service) :
    rewriteService ⟨f,o⟩ (rewriteService ⟨.podmanCompose,o⟩ s) = rewriteService ⟨f,o⟩ s := by
  simp [rewriteService,Function.comp_def]

theorem rewrite_rewrite (f : Format) (o : Options) (d : Document) :
    rewrite ⟨f,o⟩ (rewrite ⟨.podmanCompose,o⟩ d) = rewrite ⟨f,o⟩ d := by
  simp [rewrite,Function.comp_def,rewriteService_rewriteService]

/-- Names and network modes decide which namespaces are missing. -/
theorem findSome?_dangling?_map {f : Service → Service} (name : ∀ s, (f s).name = s.name)
    (mode : ∀ s, (f s).networkMode = s.networkMode) (d : Document) :
    (d.services.map f).findSome? (dangling? { d with services := d.services.map f }) =
      d.services.findSome? (dangling? d) := by
  have found (target : String) :
      { d with services := d.services.map f }.hasService target = d.hasService target := by
    have mapped : { d with services := d.services.map f }.service? target =
        (d.service? target).map f := Document.service?_map rfl name target
    rw [Document.hasService,mapped,Option.isSome_map,Document.hasService]
  have same (s : Service) :
      dangling? { d with services := d.services.map f } (f s) = dangling? d s := by
    simp [dangling?,name,mode,found]
  rw [List.findSome?_map]
  exact congrArg (List.findSome? · d.services) (funext same)

theorem findSome?_dangling?_rewrite (c : Context) (d : Document) :
    (rewrite c d).services.findSome? (dangling? (rewrite c d)) =
      d.services.findSome? (dangling? d) :=
  findSome?_dangling?_map (f := rewriteService c) (fun _ => rfl) (fun _ => rfl) d

/-- What a rule makes of a service; looking for namespaces changes nothing. -/
def change (c : Context) (s : Service) : Rule → Service
  | sockets => { s with mounts := s.mounts.map replaceSocket }
  | images => { s with image := qualify s.image }
  | relabels => { s with mounts := s.mounts.map (relabel c.options.relabel.option) }
  | restarts => { s with restart := s.restart.map (restrict c.format) }
  | namespaces => s

/-- What rules make of a document one after another. -/
def changed (c : Context) (rules : List Rule) (d : Document) : Document :=
  { d with services := d.services.map fun s => rules.foldl (change c) s }

/-- The namespace that is missing first, if a rule looks for it. -/
def missing? (rules : List Rule) (d : Document) : Option Dangling :=
  if namespaces ∈ rules then d.services.findSome? (dangling? d) else none

theorem changed_append (c : Context) (rules others : List Rule) (d : Document) :
    changed c (rules ++ others) d = changed c others (changed c rules d) := by
  simp [changed,Function.comp_def,List.foldl_append]

@[simp] theorem changed_all (c : Context) (d : Document) : changed c all d = rewrite c d := by
  simp [changed,all,change,rewrite,rewriteService,rewriteMount,Function.comp_def]

@[simp] theorem missing?_all (d : Document) :
    missing? all d = d.services.findSome? (dangling? d) := by
  simp [missing?,all]

theorem name_change (c : Context) (s : Service) (r : Rule) : (change c s r).name = s.name := by
  cases r <;> rfl

theorem networkMode_change (c : Context) (s : Service) (r : Rule) :
    (change c s r).networkMode = s.networkMode := by
  cases r <;> rfl

theorem missing?_changed (c : Context) (rules others : List Rule) (d : Document) :
    missing? others (changed c rules d) = missing? others d := by
  have kept (s : Service) : (rules.foldl (change c) s).name = s.name ∧
      (rules.foldl (change c) s).networkMode = s.networkMode := by
    induction rules generalizing s with
    | nil => exact ⟨rfl,rfl⟩
    | cons r rest ih =>
      obtain ⟨name,mode⟩ := ih (change c s r)
      exact ⟨name.trans (name_change c s r),mode.trans (networkMode_change c s r)⟩
  exact congrArg (fun found => if namespaces ∈ others then found else none)
    (findSome?_dangling?_map (fun s => (kept s).1) (fun s => (kept s).2) d)

theorem missing?_cons (r : Rule) (rules : List Rule) (d : Document) :
    missing? (r :: rules) d = (missing? [r] d).or (missing? rules d) := by
  unfold missing?
  by_cases looks : namespaces = r
  · by_cases later : namespaces ∈ rules
    · cases d.services.findSome? (dangling? d) <;> simp [looks]
    · simp [← looks,later]
  · simp [looks]

/-- One rule changes each service, unless it looks for a namespace that is missing. -/
theorem apply_eq (c : Context) (d : Document) (r : Rule) :
    ∃ notices, r.apply c d =
      match missing? [r] d with
      | none => .ok ⟨changed c [r] d,notices⟩
      | some reference => .error (.unresolved reference) := by
  cases r with
  | namespaces =>
    simp only [apply,checkNamespaces,missing?,List.mem_singleton,if_true]
    cases d.services.findSome? (dangling? d) with
    | none => exact ⟨[],by simp [changed,change]⟩
    | some reference => exact ⟨[],rfl⟩
  | sockets | images | relabels | restarts => exact ⟨_,rfl⟩

theorem runFrom_eq (c : Context) (rules : List Rule) (d : Document) (noticed : List Notice) :
    ∃ notices, runFrom c rules d noticed =
      match missing? rules d with
      | none => .ok ⟨changed c rules d,notices⟩
      | some reference => .error ⟨.unresolved reference,notices⟩ := by
  -- By induction on the rules: a run changes the services by all rules, unless a rule looks for a
  -- namespace that is missing. What was changed before does not matter to that.
  induction rules generalizing d noticed with
  | nil => exact ⟨noticed,by simp [runFrom,missing?,changed]⟩
  | cons r rest ih =>
    obtain ⟨found,applied⟩ := apply_eq c d r
    rw [runFrom,applied,missing?_cons r rest]
    cases missing? [r] d with
    | some reference => exact ⟨noticed,rfl⟩
    | none =>
      obtain ⟨notices,outcome⟩ := ih (changed c [r] d) (noticed ++ found)
      rw [missing?_changed,← changed_append] at outcome
      exact ⟨notices,outcome⟩

theorem run_eq (c : Context) (rules : List Rule) (d : Document) :
    ∃ notices, run c rules d =
      match missing? rules d with
      | none => .ok ⟨changed c rules d,notices⟩
      | some reference => .error ⟨.unresolved reference,notices⟩ := runFrom_eq c rules d []

theorem run_eq_ok {c : Context} {rules : List Rule} {d : Document} {w : Revision}
    (ran : run c rules d = .ok w) : missing? rules d = none ∧ w.document = changed c rules d := by
  obtain ⟨notices,outcome⟩ := run_eq c rules d
  cases missing : missing? rules d with
  | none =>
    rw [missing,ran] at outcome
    exact ⟨rfl,congrArg Revision.document (Except.ok.inj outcome)⟩
  | some reference =>
    rw [missing,ran] at outcome
    cases outcome

/-- The rules rewrite a document unless a namespace is missing, whatever the format. -/
theorem run_all_of_joined {d : Document} (joined : d.services.findSome? (dangling? d) = none)
    (c : Context) : ∃ notices, run c all d = .ok ⟨rewrite c d,notices⟩ := by
  obtain ⟨notices,outcome⟩ := run_eq c all d
  rw [missing?_all,joined,changed_all] at outcome
  exact ⟨notices,outcome⟩

/-- Success does not depend on the format or the options. -/
theorem joined_of_run_all {c : Context} {d : Document} {w : Revision} (ran : run c all d = .ok w) :
    d.services.findSome? (dangling? d) = none := by
  rw [← missing?_all]
  exact (run_eq_ok ran).1

end ComposeToPodman.Rule
