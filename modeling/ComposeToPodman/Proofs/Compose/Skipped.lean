import ComposeToPodman.Compose.Read.Mounts
import ComposeToPodman.Compose.Read.Ports
import ComposeToPodman.Proofs.Compose.Reading
import Mathlib.Data.List.Forall2

/-! Ports and mounts that are left out. Each entry of a list is kept, or it is left out and one notice
says so; nothing is lost without it. -/
namespace ComposeToPodman

/-- The message says that something is left out. -/
def Notice.isSkip (n : Notice) : Bool := ", skipped".toList.isSuffixOf n.message.toList

/-- Whether a notice of a port or a mount says so. -/
def ServiceNotice.isSkip? : ServiceNotice → Option Bool
  | malformedPort _ | portProtocol .. | targetProtocol .. | portOutOfRange _ => some true
  | anonymousVolume _ | malformedVolume _ | mountKind .. | relativeTarget _ => some true
  | sameHostPort _ | swarmPortMode _ => some false
  | _ => none

theorem isSuffixOf_append {ending tail : List Char} (front : List Char)
    (long : ending.length ≤ tail.length) :
    ending.isSuffixOf (front ++ tail) = ending.isSuffixOf tail := by
  rw [Bool.eq_iff_iff,List.isSuffixOf_iff_suffix,List.isSuffixOf_iff_suffix]
  constructor
  · exact fun whole => List.suffix_of_suffix_length_le whole (List.suffix_append front tail) long
  · exact fun part => part.trans (List.suffix_append front tail)

/-- The last part of a message, behind whatever is told of the entry, tells how it ends. -/
theorem message_tail {n : ServiceNotice} {skips : Bool} (told : n.isSkip? = some skips) :
    ∃ front tail : String, n.message = front ++ tail ∧
      ", skipped".toList.length ≤ tail.toList.length ∧
      ", skipped".toList.isSuffixOf tail.toList = skips := by
  cases n <;> cases told
  all_goals exact ⟨_,_,rfl,by decide,by decide⟩

theorem isSkip_inService {n : ServiceNotice} {skips : Bool} (told : n.isSkip? = some skips)
    (service : String) : (Notice.inService service n).isSkip = skips := by
  obtain ⟨front,tail,message,long,ends⟩ := message_tail told
  have whole : (Notice.inService service n).message =
      "service '" ++ service ++ "': " ++ (front ++ tail) :=
    congrArg ("service '" ++ service ++ "': " ++ ·) message
  rw [Notice.isSkip,whole,← String.append_assoc,String.toList_append,isSuffixOf_append _ long,ends]

namespace Compose

/-- How many of the notices say that something is left out. -/
def Reading.skips (r : Reading α) : Nat := r.notices.countP Notice.isSkip

namespace Reading

theorem skips_pure (a : α) : (pure a : Reading α).skips = 0 := rfl

theorem skips_bind (r : Reading α) (f : α → Reading β) :
    (r >>= f).skips = r.skips + (f r.value).skips := List.countP_append

theorem skips_warn {n : ServiceNotice} {skips : Bool} (told : n.isSkip? = some skips)
    (service : String) : (warn service n).skips = if skips then 1 else 0 := by
  simp [Reading.skips,warn,notice,isSkip_inService told]

/-- An entry that is kept has no notice that it is left out, and any other entry has one. -/
def Accounted (r : Reading (Option α)) : Prop := r.skips = if r.value.isSome then 0 else 1

theorem accounted_pure (a : α) : (pure (some a) : Reading (Option α)).Accounted := rfl

theorem accounted_skip {n : ServiceNotice} (told : n.isSkip? = some true) (service : String) :
    (skip service n : Reading (Option α)).Accounted := by
  rw [Accounted,skip,skips_bind,skips_warn told]
  rfl

/-- Another notice before does not count. -/
theorem accounted_warn {n : ServiceNotice} (told : n.isSkip? = some false) (service : String)
    {r : Reading (Option α)} (accounted : r.Accounted) :
    (warn service n >>= fun _ => r).Accounted := by
  rw [Accounted,skips_bind,skips_warn told,accounted]
  simp

/-- An entry of which a part is left out is left out, and no more is said of it. -/
theorem accounted_bind {r : Reading (Option α)} {f : Option α → Reading (Option β)}
    (first : r.Accounted) (missing : f none = pure none) (next : ∀ a, (f (some a)).Accounted) :
    (r >>= f).Accounted := by
  rw [Accounted,skips_bind,first,value_bind]
  cases r.value with
  | none => simp [missing,skips_pure]
  | some a =>
    have rest : (f (some a)).skips = _ := next a
    simp [rest]

end Reading

open Reading

theorem accounted_readShortPort (service spec : String) : (readShortPort service spec).Accounted := by
  unfold readShortPort
  split
  next => exact accounted_skip rfl service
  next =>
    split
    next => exact accounted_skip rfl service
    next =>
      split
      next => exact accounted_skip rfl service
      next => exact accounted_skip rfl service
      next => exact accounted_pure _
      next => exact accounted_warn rfl service (accounted_pure _)

theorem accounted_readHostPort (service : String) (p : Form.LongPort) :
    (readHostPort service p).Accounted := by
  unfold readHostPort
  split
  next => exact accounted_warn rfl service (accounted_pure _)
  next =>
    split
    next => exact accounted_pure _
    next => exact accounted_skip rfl service

theorem accounted_readLongPort (service : String) (p : Form.LongPort) :
    (readLongPort service p).Accounted := by
  unfold readLongPort
  split
  next => exact accounted_skip rfl service
  next =>
    -- A host port that is refused has its notice already, and the protocol is not looked at then.
    refine accounted_bind (accounted_readHostPort service p) rfl fun hostPort => ?_
    dsimp only
    split
    next => exact accounted_skip rfl service
    next =>
      split
      next => exact accounted_warn rfl service (accounted_pure _)
      next => exact accounted_pure _

theorem accounted_readPort (service : String) (form : Form.Port) :
    (readPort service form).Accounted := by
  cases form with
  | short spec => exact accounted_readShortPort service spec.asText
  | long p => exact accounted_readLongPort service p

theorem accounted_readShortMount (service : String) (volumes : Dict Volume) (spec : String) :
    (readShortMount service volumes spec).Accounted := by
  unfold readShortMount
  dsimp only
  split
  next => exact accounted_skip rfl service
  next =>
    split
    next => exact accounted_skip rfl service
    next => exact accounted_pure _
  next =>
    split
    next => exact accounted_skip rfl service
    next => exact accounted_pure _
  next => exact accounted_skip rfl service

theorem accounted_readLongMount (service : String) (m : Form.LongMount) :
    (readLongMount service m).Accounted := by
  unfold readLongMount
  split
  next => exact accounted_skip rfl service
  next =>
    split
    next => exact accounted_skip rfl service
    next =>
      split
      next => exact accounted_pure _
      next => exact accounted_skip rfl service

theorem accounted_readMount (service : String) (volumes : Dict Volume) (form : Form.Mount) :
    (readMount service volumes form).Accounted := by
  cases form with
  | short spec => exact accounted_readShortMount service volumes spec
  | long m => exact accounted_readLongMount service m

/-- What is read of a list: the values are, in order, those of the entries that are kept; each entry
that is left out has one notice that says so, and the others have none. -/
structure KeptOrReported (read : α → Reading (Option β)) (entries : List α)
    (r : Reading (List β)) : Prop where
  values : List.Forall₂ (fun a b => (read a).value = some b)
    (entries.filter fun a => (read a).value.isSome) r.value
  notices : r.notices = entries.flatMap fun a => (read a).notices
  kept : ∀ a ∈ entries, (read a).value.isSome → (read a).skips = 0
  left : ∀ a ∈ entries, (read a).value = none → (read a).skips = 1
  total : r.value.length + r.skips = entries.length

theorem keptOrReported_filterMap {read : α → Reading (Option β)}
    (accounted : ∀ a, (read a).Accounted) (entries : List α) :
    KeptOrReported read entries (Reading.filterMap read entries) where
  values := by
    rw [value_filterMap]
    -- By induction on the entries: each adds a value or a notice.
    induction entries with
    | nil => exact .nil
    | cons a rest ih =>
      cases given : (read a).value with
      | none => simpa [given] using ih
      | some b => simpa [given] using ih
  notices := notices_filterMap read entries
  kept a _ given := by rw [accounted a,if_pos given]
  left a _ missing := by rw [accounted a,missing]; rfl
  total := by
    induction entries with
    | nil => rfl
    | cons a rest ih =>
      have entry : (read a).value.toList.length + (read a).skips = 1 := by
        rw [accounted a]
        cases (read a).value <;> rfl
      have value : (filterMap read (a :: rest)).value =
          (read a).value.toList ++ (filterMap read rest).value := rfl
      have skips : (filterMap read (a :: rest)).skips =
          (read a).skips + (filterMap read rest).skips := by
        rw [filterMap,skips_bind,skips_bind,skips_pure,Nat.add_zero]
      rw [value,skips,List.length_append,List.length_cons]
      omega

/-- No port and no mount of a service is lost without a notice. -/
theorem ports_and_mounts_kept_or_reported (service : String) (volumes : Dict Volume)
    (ports : List Form.Port) (mounts : List Form.Mount) :
    KeptOrReported (readPort service) ports (Reading.filterMap (readPort service) ports) ∧
      KeptOrReported (readMount service volumes) mounts
        (Reading.filterMap (readMount service volumes) mounts) :=
  ⟨keptOrReported_filterMap (accounted_readPort service) ports,
    keptOrReported_filterMap (accounted_readMount service volumes) mounts⟩

end Compose

end ComposeToPodman
