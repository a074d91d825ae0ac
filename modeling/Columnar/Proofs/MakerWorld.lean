import Columnar.Proofs.BindingBalance
import Columnar.Binding.Makers

/-!
# The makers' world is honest

The outside objects the session requests make (`Maker`) deal with the binding as
`World.Honest` asks: a maker puts each fresh descriptor into a new capsule and counts it as
handed over at once, so the balance grows by exactly what was handed over; its capsules hold
what their names say; and a stream maker's stream holds its batches from the start.
-/

namespace Columnar

namespace Maker

open Host

variable {s s' : Session Maker}

theorem exec_makeCapsule (name : String) (p : Payload) (s : Session Maker) :
    (makeCapsule name p).exec s = (.ok (.ref s.fresh),
      { s.push (.capsule ⟨name, p, none, {}⟩) with handed := s.handed + p.owes }) :=
  rfl

/-- A new capsule of a fresh descriptor adds to the balance what is counted as handed
over. -/
theorem settles_makeCapsule (name : String) (p : Payload) (s : Session Maker) :
    Settles (makeCapsule name p) (fun _ => 0) 0 s := by
  intro hwf
  rw [exec_makeCapsule]
  refine ⟨⟨hwf.push.nodup, hwf.push.below⟩, p.owes, rfl, ?_⟩
  show (s.push _).balance + 0 = _
  simp [Session.balance_push, HostObject.owes, HostCapsule.owes]

/-- Making a capsule, then going on from the reference to it. -/
theorem Settles.makeCapsule_bind {β : Type} {name : String} {p : Payload}
    {f : HostValue → Host Maker β} {ob : β → Ledger} {m : Ledger}
    (hf : ∀ s', Settles (f (.ref s.fresh)) ob m s') :
    Settles (makeCapsule name p >>= f) ob m s := by
  refine (Settles.bind (settles_makeCapsule name p s) (fun a s₁ h => ?_)
    (fun e s₁ h => by simp [exec_makeCapsule] at h)).congr (fun _ => rfl) (zero_add m)
  rw [exec_makeCapsule] at h
  simp only [Prod.mk.injEq, Except.ok.injEq] at h
  obtain ⟨rfl, -⟩ := h
  exact (hf s₁).congr (fun _ => rfl) (zero_add m).symm

theorem settles_answerArray (m : ArrayMaker) (s : Session Maker) :
    Settles (answerArray m) (fun _ => 0) 0 s := by
  unfold answerArray
  cases hm : m.mode
  case notTuple => exact settles_pure _ _ s
  case triple => exact settles_pure _ _ s
  case raise => exact settles_throw _ _ s
  case arrayNotCapsule =>
    exact Settles.makeCapsule_bind fun _ => settles_pure _ _ _
  all_goals
    exact Settles.makeCapsule_bind fun _ => by
      simp only [reduceCtorEq, if_false]
      exact Settles.makeCapsule_bind fun _ => settles_pure _ _ _

theorem answerArray_fits {m : ArrayMaker} {sv av : HostValue} (hwf : s.WF)
    (h : (answerArray m).exec s = (.ok (.tuple [sv, av]), s')) :
    s'.Fits .schema sv ∧ s'.Fits .array av := by
  have hwf' := (settles_answerArray m s hwf).1
  rw [h] at hwf'
  unfold answerArray at h
  -- a pair comes back only from the modes that make capsules, each holding its own kind
  cases hm : m.mode <;>
    simp [hm, exec_bind, exec_makeCapsule] at h
  case arrayNotCapsule =>
    obtain ⟨⟨rfl, rfl⟩, rfl⟩ := h
    exact ⟨Session.fits_of_mem hwf' (Session.mem_push_self _ _) rfl trivial,
      Session.fits_of_not_ref (by simp)⟩
  all_goals
    obtain ⟨⟨rfl, rfl⟩, rfl⟩ := h
    exact ⟨Session.fits_of_mem hwf' (Session.mem_push_of_mem (Session.mem_push_self _ _) _)
        rfl trivial,
      Session.fits_of_mem hwf' (Session.mem_push_self _ _) rfl trivial⟩

theorem settles_answerStream (m : StreamMaker) (s : Session Maker) :
    Settles (answerStream m) (fun _ => 0) 0 s := by
  unfold answerStream
  cases hm : m.mode
  case raise => exact settles_throw _ _ s
  case notCapsule => exact settles_pure _ _ s
  all_goals exact settles_makeCapsule _ _ s

theorem answerStream_fits {m : StreamMaker} {r : HostValue} (hwf : s.WF)
    (h : (answerStream m).exec s = (.ok r, s')) : s'.Fits .stream r := by
  have hwf' := (settles_answerStream m s hwf).1
  rw [h] at hwf'
  unfold answerStream at h
  cases hm : m.mode <;> simp [hm, exec_makeCapsule] at h
  case notCapsule =>
    obtain ⟨rfl, rfl⟩ := h
    exact Session.fits_of_not_ref (by simp)
  -- the stream a maker hands over holds its batches from the start
  all_goals
    obtain ⟨rfl, rfl⟩ := h
    exact Session.fits_of_mem hwf' (Session.mem_push_self _ _) rfl m.premade

theorem settles_writeLegacy (m : LegacyMaker) (s : Session Maker) :
    Settles (writeLegacy m) (fun w => Ledger.ofArray w.array + Ledger.ofSchema w.schema) 0 s := by
  unfold writeLegacy
  cases m.failure
  · intro hwf
    simp only [exec_bind, exec_handOver, exec_pure]
    exact ⟨⟨hwf.nodup, hwf.below⟩, _, rfl, by simp [owing, Session.balance]⟩
  · exact settles_throw _ _ s

/-- A method a maker does not have raises. -/
theorem settles_noAttribute {β : Type} (cls name : String) (ob : β → Ledger) (s : Session Maker) :
    Settles (noAttribute cls name : Host Maker β) ob 0 s :=
  settles_throw _ ob s

/-- A method that first reads its optional argument. -/
theorem Settles.optionalArgument_bind {β : Type} {method : String} {w : Bool}
    {args : List HostValue} {x : Host Maker β} {ob : β → Ledger} {m : Ledger}
    (hx : Settles x ob m s) (hm : m = 0) :
    Settles (discard (optionalArgument method w args) >>= fun _ => x) ob m s := by
  rcases optionalArgument_exec method w args s with ⟨e, ha⟩ | ⟨req, ha⟩
  · subst hm
    exact Settles.of_error ob (by rw [exec_bind, exec_discard, ha]; rfl)
  · exact Settles.bind_ok (by rw [exec_discard, ha]; rfl) hx

end Maker

open Host in
/-- The makers' world deals with the binding as it needs. -/
theorem Maker.honest : World.Honest Maker where
  cArray id o args s ho := by
    clear ho
    cases o
    case array m => exact Maker.Settles.optionalArgument_bind (Maker.settles_answerArray m s) rfl
    all_goals exact Maker.settles_noAttribute _ _ _ s
  cArray_fits id o args s s' sv av hwf ho h := by
    clear ho
    cases o
    case array m =>
      change (discard (optionalArgument _ true args) >>= fun _ => Maker.answerArray m).exec s = _
        at h
      exact Maker.answerArray_fits hwf (exec_of_optionalArgument_bind h)
    all_goals simp [World.cArray, noAttribute] at h
  cStream id o args s ho := by
    clear ho
    cases o
    case stream m =>
      exact Maker.Settles.optionalArgument_bind (Maker.settles_answerStream m s) rfl
    all_goals exact Maker.settles_noAttribute _ _ _ s
  cStream_fits id o args s s' r hwf ho h := by
    clear ho
    cases o
    case stream m =>
      change (discard (optionalArgument _ true args) >>= fun _ => Maker.answerStream m).exec s = _
        at h
      exact Maker.answerStream_fits hwf (exec_of_optionalArgument_bind h)
    all_goals simp [World.cStream, noAttribute] at h
  exportToC id o s ho := by
    clear ho
    cases o
    case legacy m => exact Maker.settles_writeLegacy m s
    all_goals exact Maker.settles_noAttribute _ _ _ s
  toBatches id o s ho := by
    clear ho
    cases o
    case batches items => exact settles_pure _ _ s
    all_goals exact Maker.settles_noAttribute _ _ _ s
  chunks id o s ho := by
    clear ho
    cases o
    case chunks items => exact settles_pure _ _ s
    all_goals exact Maker.settles_noAttribute _ _ _ s

end Columnar
