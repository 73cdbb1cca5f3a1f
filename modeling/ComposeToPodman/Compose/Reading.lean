import ComposeToPodman.Failure

/-! Results of reading a document, with what was noticed and what is wrong, each in text order. -/
namespace ComposeToPodman.Compose

structure Reading (α : Type) where
  value : α
  notices : List Notice := []
  problems : List Problem := []

namespace Reading

instance : Monad Reading where
  pure a := ⟨a, [], []⟩
  bind r f :=
    let s := f r.value
    ⟨s.value, r.notices ++ s.notices, r.problems ++ s.problems⟩

variable {α β : Type}

@[simp] theorem value_pure (a : α) : (pure a : Reading α).value = a := rfl
@[simp] theorem notices_pure (a : α) : (pure a : Reading α).notices = [] := rfl
@[simp] theorem problems_pure (a : α) : (pure a : Reading α).problems = [] := rfl
@[simp] theorem value_bind (r : Reading α) (f : α → Reading β) :
    (r >>= f).value = (f r.value).value := rfl
@[simp] theorem notices_bind (r : Reading α) (f : α → Reading β) :
    (r >>= f).notices = r.notices ++ (f r.value).notices := rfl
@[simp] theorem problems_bind (r : Reading α) (f : α → Reading β) :
    (r >>= f).problems = r.problems ++ (f r.value).problems := rfl

instance : LawfulMonad Reading := LawfulMonad.mk' _
  (fun _ => by simp [Functor.map])
  (fun _ _ => by simp [bind, pure])
  (fun _ _ _ => by simp [bind])

def notice (n : Notice) : Reading Unit := ⟨(), [n], []⟩

def report (p : Problem) : Reading Unit := ⟨(), [], [p]⟩

def warn (service : String) (n : ServiceNotice) : Reading Unit := notice (.inService service n)

/-- Leave something out, with the reason. -/
def skip (service : String) (n : ServiceNotice) : Reading (Option α) := do
  warn service n
  return none

/-- Read the elements of a list, and keep those that give something. -/
def filterMap (read : α → Reading (Option β)) : List α → Reading (List β)
  | [] => pure []
  | a :: rest => do
    let b ← read a
    let bs ← filterMap read rest
    return b.toList ++ bs

end Reading

end ComposeToPodman.Compose
