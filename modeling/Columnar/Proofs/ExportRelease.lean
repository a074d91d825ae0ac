import Columnar.Descriptor.Ownership
import Mathlib

/-!
# Releasing an export frees everything exactly once

Whatever a consumer moves out of an exported descriptor tree, and in whatever order it calls
the release callbacks of what it holds, the callbacks together free every box and drop every
node's private data exactly once, and leave every descriptor released.

The argument is an accounting invariant (`Accounts`): the events so far, followed by what
releasing everything still held would do, are always a permutation of releasing the untouched
export at once. Moving a descriptor out only moves its events from under its old parent to the
new holder (`release_perm_of_take`); releasing one moves its events from the held side to the
done side. When nothing is held any more, the done side is all of it.

That no event comes twice is a fact of the tree alone: every node of an export sits at its own
path (`Placed`), so no two events of releasing it act on the same box or the same private data
(`release_below`).
-/

namespace Columnar

namespace ReleaseEvent

variable {α : Type}

/-- The node whose private data the event drops, with what that data kept. -/
def dropped? : ReleaseEvent α → Option (List Slot × α)
  | .drop p d => some (p, d)
  | .free _ => none

/-- The box the event frees. -/
def freed? : ReleaseEvent α → Option (List Slot)
  | .free p => some p
  | .drop _ _ => none

/-- The path of the node the event acts on. -/
def path : ReleaseEvent α → List Slot
  | .free p | .drop p _ => p

/-- What the event acts on: the box (`true`) or the private data (`false`) of the node at a
path. -/
def key : ReleaseEvent α → List Slot × Bool
  | .free p => (p, true)
  | .drop p _ => (p, false)

@[simp] theorem key_fst (e : ReleaseEvent α) : e.key.1 = e.path := by
  cases e <;> rfl

end ReleaseEvent

namespace Exported

variable {α : Type}

/-! ## What an export owns -/

mutual

/-- The live nodes of a tree, each with what its private data keeps. -/
def nodes : Exported α → List (List Slot × α)
  | .released => []
  | .live p d cs dict => nodesOf cs ++ dictionaryNodes dict ++ [(p, d)]

/-- The live nodes of the trees in a node's child boxes. -/
def nodesOf : List (Exported α) → List (List Slot × α)
  | [] => []
  | c :: cs => nodes c ++ nodesOf cs

/-- The live nodes of the tree in a node's dictionary box. -/
def dictionaryNodes : Option (Exported α) → List (List Slot × α)
  | none => []
  | some d => nodes d

end

mutual

/-- The boxes the live nodes of a tree own: one per child slot and one for a dictionary. -/
def boxes : Exported α → List (List Slot)
  | .released => []
  | .live p _ cs dict => boxesOf p 0 cs ++ dictionaryBoxes p dict

/-- The child boxes of the node at `p` from slot `i` on, and the boxes below them. -/
def boxesOf (p : List Slot) : Nat → List (Exported α) → List (List Slot)
  | _, [] => []
  | i, c :: cs => boxes c ++ (p ++ [.child i]) :: boxesOf p (i + 1) cs

/-- The dictionary box of the node at `p`, if any, and the boxes below it. -/
def dictionaryBoxes (p : List Slot) : Option (Exported α) → List (List Slot)
  | none => []
  | some d => boxes d ++ [p ++ [.dictionary]]

end

mutual

/-- Releasing a tree drops the private data of each of its live nodes. -/
theorem dropped_release : (t : Exported α) → t.release.filterMap ReleaseEvent.dropped? = t.nodes
  | .released => rfl
  | .live p d cs dict => by
    simp [release, nodes, dropped_releaseBoxes p 0 cs, dropped_releaseDictionary p dict,
      ReleaseEvent.dropped?]

theorem dropped_releaseBoxes (p : List Slot) : (i : Nat) → (cs : List (Exported α)) →
    (releaseBoxes p i cs).filterMap ReleaseEvent.dropped? = nodesOf cs
  | _, [] => rfl
  | i, c :: cs => by
    simp [releaseBoxes, nodesOf, List.filterMap_cons, dropped_release c,
      dropped_releaseBoxes p (i + 1) cs, ReleaseEvent.dropped?]

theorem dropped_releaseDictionary (p : List Slot) : (dict : Option (Exported α)) →
    (releaseDictionary p dict).filterMap ReleaseEvent.dropped? = dictionaryNodes dict
  | none => rfl
  | some d => by
    simp [releaseDictionary, dictionaryNodes, dropped_release d, ReleaseEvent.dropped?]

end

mutual

/-- Releasing a tree frees each box its live nodes own. -/
theorem freed_release : (t : Exported α) → t.release.filterMap ReleaseEvent.freed? = t.boxes
  | .released => rfl
  | .live p d cs dict => by
    simp [release, boxes, freed_releaseBoxes p 0 cs, freed_releaseDictionary p dict,
      ReleaseEvent.freed?]

theorem freed_releaseBoxes (p : List Slot) : (i : Nat) → (cs : List (Exported α)) →
    (releaseBoxes p i cs).filterMap ReleaseEvent.freed? = boxesOf p i cs
  | _, [] => rfl
  | i, c :: cs => by
    simp [releaseBoxes, boxesOf, freed_release c, freed_releaseBoxes p (i + 1) cs,
      ReleaseEvent.freed?]

theorem freed_releaseDictionary (p : List Slot) : (dict : Option (Exported α)) →
    (releaseDictionary p dict).filterMap ReleaseEvent.freed? = dictionaryBoxes p dict
  | none => rfl
  | some d => by
    simp [releaseDictionary, dictionaryBoxes, freed_release d, ReleaseEvent.freed?]

end

/-! ## Moving a descriptor out moves its events -/

/-- A part of a list whose events split off `e` can give them up at the end of the list. -/
theorem perm_of_perm_middle {β : Type} {a b b' c e : List β} (hb : b.Perm (b' ++ e)) :
    (a ++ b ++ c).Perm (a ++ b' ++ c ++ e) :=
  calc (a ++ b ++ c).Perm (a ++ (b' ++ e) ++ c) := (hb.append_left a).append_right c
    _ = a ++ (b' ++ (e ++ c)) := by simp only [List.append_assoc]
    List.Perm _ (a ++ (b' ++ (c ++ e))) := (List.perm_append_comm.append_left b').append_left a
    _ = a ++ b' ++ c ++ e := by simp only [List.append_assoc]

/-- Putting a descriptor whose release does `e` less into the `i`-th child box takes `e` out
of releasing the boxes. -/
theorem releaseBoxes_set_perm {p : List Slot} {c c' : Exported α} {e : List (ReleaseEvent α)}
    (hc : c.release.Perm (c'.release ++ e)) :
    ∀ {i k : Nat} {cs : List (Exported α)}, cs[i]? = some c →
      (releaseBoxes p k cs).Perm (releaseBoxes p k (cs.set i c') ++ e)
  | _, _, [], h => by simp at h
  | 0, k, c₀ :: cs, h => by
    obtain rfl : c₀ = c := by simpa using h
    simpa only [releaseBoxes, List.set_cons_zero, List.nil_append] using
      perm_of_perm_middle (a := []) (c := _ :: _) hc
  | i + 1, k, c₀ :: cs, h => by
    simp only [releaseBoxes, List.set_cons_succ]
    have hrest := releaseBoxes_set_perm (p := p) (k := k + 1) hc (by simpa using h)
    simpa only [List.append_assoc, List.cons_append] using (hrest.cons _).append_left c₀.release

/-- The same for the descriptors a consumer holds. -/
theorem flatMap_set_perm {t t' : Exported α} {e : List (ReleaseEvent α)}
    (ht : t.release.Perm (t'.release ++ e)) :
    ∀ {r : Nat} {held : List (Exported α)}, held[r]? = some t →
      (held.flatMap release).Perm ((held.set r t').flatMap release ++ e)
  | _, [], h => by simp at h
  | 0, t₀ :: held, h => by
    obtain rfl : t₀ = t := by simpa using h
    simpa only [List.flatMap_cons, List.set_cons_zero, List.nil_append] using
      perm_of_perm_middle (a := []) ht
  | r + 1, t₀ :: held, h => by
    simp only [List.flatMap_cons, List.set_cons_succ]
    simpa only [List.append_assoc] using
      List.Perm.append_left t₀.release (flatMap_set_perm ht (r := r) (by simpa using h))

/-- Moving a descriptor out from under child slot `i`. -/
theorem take_child_eq_some {p : List Slot} {d : α} {cs : List (Exported α)}
    {dict : Option (Exported α)} {i : Nat} {rest : List Slot} {m t' : Exported α} :
    (live p d cs dict).take (.child i :: rest) = some (m, t') ↔
      ∃ c c', cs[i]? = some c ∧ c.take rest = some (m, c') ∧
        t' = live p d (cs.set i c') dict := by
  simp only [take, Option.bind_eq_bind, Option.bind_eq_some_iff, Option.pure_def,
    Option.some.injEq, Prod.mk.injEq]
  constructor
  · rintro ⟨c, hc, ⟨m', c'⟩, hm, rfl, rfl⟩
    exact ⟨c, c', hc, hm, rfl⟩
  · rintro ⟨c, c', hc, hm, rfl⟩
    exact ⟨c, hc, (m, c'), hm, rfl, rfl⟩

/-- Moving a descriptor out from under the dictionary slot. -/
theorem take_dictionary_eq_some {p : List Slot} {d : α} {cs : List (Exported α)}
    {dict : Option (Exported α)} {rest : List Slot} {m t' : Exported α} :
    (live p d cs dict).take (.dictionary :: rest) = some (m, t') ↔
      ∃ c c', dict = some c ∧ c.take rest = some (m, c') ∧ t' = live p d cs (some c') := by
  simp only [take, Option.bind_eq_bind, Option.bind_eq_some_iff, Option.pure_def,
    Option.some.injEq, Prod.mk.injEq]
  constructor
  · rintro ⟨c, hc, ⟨m', c'⟩, hm, rfl, rfl⟩
    exact ⟨c, c', hc, hm, rfl⟩
  · rintro ⟨c, c', hc, hm, rfl⟩
    exact ⟨c, hc, (m, c'), hm, rfl, rfl⟩

/-- Moving a descriptor out of a tree splits the tree's release into the release of what is
left and the release of what was moved. -/
theorem release_perm_of_take : ∀ {t : Exported α} {path : List Slot} {m t' : Exported α},
    t.take path = some (m, t') → t.release.Perm (t'.release ++ m.release)
  | t, [], m, t', h => by
    simp only [take, Option.some.injEq, Prod.mk.injEq] at h
    obtain ⟨rfl, rfl⟩ := h
    simp [release]
  | .released, _ :: _, _, _, h => by simp [take] at h
  | .live p d cs dict, .child i :: rest, m, t', h => by
    obtain ⟨c, c', hc, hm, rfl⟩ := take_child_eq_some.mp h
    have hboxes := releaseBoxes_set_perm (p := p) (k := 0) (release_perm_of_take hm) hc
    have hall := perm_of_perm_middle (a := []) (c := releaseDictionary p dict ++ [.drop p d]) hboxes
    simp only [List.nil_append, List.append_assoc] at hall
    simpa only [release, List.append_assoc] using hall
  | .live p d cs dict, .dictionary :: rest, m, t', h => by
    obtain ⟨c, c', rfl, hm, rfl⟩ := take_dictionary_eq_some.mp h
    have hdict : (releaseDictionary p (some c)).Perm
        (releaseDictionary p (some c') ++ m.release) := by
      simpa only [releaseDictionary, List.nil_append] using
        perm_of_perm_middle (a := []) (c := [_]) (release_perm_of_take hm)
    exact perm_of_perm_middle hdict

/-- Once the child of a struct export has been moved out, releasing the root frees the
child's box but leaves the child's private data alone. -/
example : (((Column.struct [⟨"a", .null, true, .empty⟩] [.null 1] none 1).exportTree []).take
    [.child 0]).map (fun x => x.2.release.map ReleaseEvent.key) =
      some [([.child 0], true), ([], false)] := rfl

/-! ## No event twice -/

mutual

/-- Every live node of a tree sits at its own path: the root at `p`, the tree in child box `i`
below `p ++ [.child i]`, the tree in the dictionary box below `p ++ [.dictionary]`. -/
def Placed (p : List Slot) : Exported α → Prop
  | .released => True
  | .live q _ cs dict => q = p ∧ PlacedBoxes p 0 cs ∧ PlacedDictionary p dict

/-- The trees in the child boxes of the node at `p`, from slot `i` on, are placed. -/
def PlacedBoxes (p : List Slot) : Nat → List (Exported α) → Prop
  | _, [] => True
  | i, c :: cs => Placed (p ++ [.child i]) c ∧ PlacedBoxes p (i + 1) cs

/-- The tree in the dictionary box of the node at `p` is placed. -/
def PlacedDictionary (p : List Slot) : Option (Exported α) → Prop
  | none => True
  | some d => Placed (p ++ [.dictionary]) d

end

/-- A path through `p ++ [s]` and one through `p ++ [s']` go through the same slot. -/
theorem slot_eq_of_through {p q : List Slot} {s s' : Slot} (h : p ++ [s] <+: q)
    (h' : p ++ [s'] <+: q) : s = s' := by
  have heq : p ++ [s] = p ++ [s'] :=
    (List.prefix_of_prefix_length_le h h' (by simp)).eq_of_length (by simp)
  simpa using heq

/-- A path through a slot below `p` is not `p`. -/
theorem ne_of_through_slot {p q : List Slot} {s : Slot} (h : p ++ [s] <+: q) : q ≠ p := by
  rintro rfl
  have := h.length_le
  simp only [List.length_append, List.length_singleton] at this
  omega

/-- Events below two different slots of one node act on different things. -/
theorem key_ne_of_slot_ne {p : List Slot} {s s' : Slot} {e e' : ReleaseEvent α} (hs : s ≠ s')
    (he : p ++ [s] <+: e.path) (he' : p ++ [s'] <+: e'.path) : e.key ≠ e'.key := by
  intro hk
  have hpath : e.path = e'.path := by simpa using congrArg Prod.fst hk
  exact hs (slot_eq_of_through he (hpath ▸ he'))

mutual

/-- Releasing a placed tree at `p` acts only at and below `p`, at `p` itself only on the
root's private data, and never twice on the same thing. -/
theorem release_below : ∀ {p : List Slot} (t : Exported α), Placed p t →
    (∀ e ∈ t.release, p <+: e.path ∧ (e.path = p → e.key = (p, false))) ∧
      (t.release.map ReleaseEvent.key).Nodup
  | _, .released, _ => by simp [release]
  | p, .live q d cs dict, hp => by
    obtain ⟨rfl, hcs, hdict⟩ := hp
    obtain ⟨hcs_below, hcs_nodup⟩ := releaseBoxes_below q 0 cs hcs
    obtain ⟨hdict_below, hdict_nodup⟩ := releaseDictionary_below q dict hdict
    -- every event of the boxes sits below one of the node's slots
    have hslot : ∀ e ∈ releaseBoxes q 0 cs ++ releaseDictionary q dict,
        ∃ s, q ++ [s] <+: e.path := by
      intro e he
      rcases List.mem_append.mp he with he | he
      · obtain ⟨j, -, hj⟩ := hcs_below e he
        exact ⟨_, hj⟩
      · exact ⟨_, hdict_below e he⟩
    refine ⟨?below, ?nodup⟩
    case below =>
      intro e he
      simp only [release, List.mem_append, List.mem_singleton] at he
      rcases he with he | rfl
      · obtain ⟨s, hs⟩ := hslot e (List.mem_append.mpr he)
        exact ⟨(List.prefix_append q [s]).trans hs, fun h => absurd h (ne_of_through_slot hs)⟩
      · exact ⟨List.prefix_rfl, fun _ => rfl⟩
    case nodup =>
      rw [release, List.map_append, List.nodup_append]
      refine ⟨?_, by simp, ?_⟩
      · rw [List.map_append, List.nodup_append]
        refine ⟨hcs_nodup, hdict_nodup, ?_⟩
        simp only [List.mem_map]
        rintro _ ⟨e, he, rfl⟩ _ ⟨e', he', rfl⟩
        obtain ⟨j, -, hj⟩ := hcs_below e he
        exact key_ne_of_slot_ne (by simp) hj (hdict_below e' he')
      · simp only [List.mem_map, List.map_cons, List.map_nil, List.mem_singleton]
        rintro _ ⟨e, he, rfl⟩ _ rfl hk
        obtain ⟨s, hs⟩ := hslot e he
        exact ne_of_through_slot hs (by simpa [ReleaseEvent.path] using congrArg Prod.fst hk)

/-- Releasing placed child boxes from slot `i` on acts below the slots from `i` on, never
twice on the same thing. -/
theorem releaseBoxes_below : ∀ (p : List Slot) (i : Nat) (cs : List (Exported α)),
    PlacedBoxes p i cs →
    (∀ e ∈ releaseBoxes p i cs, ∃ j, i ≤ j ∧ p ++ [.child j] <+: e.path) ∧
      ((releaseBoxes p i cs).map ReleaseEvent.key).Nodup
  | _, _, [], _ => by simp [releaseBoxes]
  | p, i, c :: cs, ⟨hc, hcs⟩ => by
    obtain ⟨hc_below, hc_nodup⟩ := release_below c hc
    obtain ⟨hcs_below, hcs_nodup⟩ := releaseBoxes_below p (i + 1) cs hcs
    refine ⟨?below, ?nodup⟩
    case below =>
      intro e he
      simp only [releaseBoxes, List.mem_append, List.mem_cons] at he
      rcases he with he | rfl | he
      · exact ⟨i, Nat.le_refl i, (hc_below e he).1⟩
      · exact ⟨i, Nat.le_refl i, List.prefix_rfl⟩
      · obtain ⟨j, hj, hpre⟩ := hcs_below e he
        exact ⟨j, by omega, hpre⟩
    case nodup =>
      -- an event of a later box is not below slot `i`
      have hlater : ∀ e ∈ releaseBoxes p (i + 1) cs, ¬ p ++ [.child i] <+: e.path := by
        intro e he hi
        obtain ⟨j, hj, hpre⟩ := hcs_below e he
        have := slot_eq_of_through hi hpre
        simp at this
        omega
      simp only [releaseBoxes, List.map_append, List.map_cons, List.nodup_append,
        List.nodup_cons, List.mem_map, List.mem_cons]
      refine ⟨hc_nodup, ⟨?_, hcs_nodup⟩, ?_⟩
      · rintro ⟨e, he, hk⟩
        have hpath : e.path = p ++ [.child i] := by
          simpa [ReleaseEvent.path] using congrArg Prod.fst hk
        exact hlater e he (hpath ▸ List.prefix_rfl)
      · rintro _ ⟨e, he, rfl⟩ _ (hk | ⟨e', he', rfl⟩)
        · intro hke
          have hpath : e.path = p ++ [.child i] := by
            simpa [ReleaseEvent.path] using congrArg Prod.fst (hke.trans hk)
          have := congrArg Prod.snd (((hc_below e he).2 hpath).symm.trans (hke.trans hk))
          simp [ReleaseEvent.key] at this
        · intro hke
          have hpath : e'.path = e.path := by simpa using congrArg Prod.fst hke.symm
          exact hlater e' he' (hpath ▸ (hc_below e he).1)

/-- Releasing a placed dictionary box acts below the dictionary slot, never twice on the same
thing. -/
theorem releaseDictionary_below : ∀ (p : List Slot) (dict : Option (Exported α)),
    PlacedDictionary p dict →
    (∀ e ∈ releaseDictionary p dict, p ++ [.dictionary] <+: e.path) ∧
      ((releaseDictionary p dict).map ReleaseEvent.key).Nodup
  | _, none, _ => by simp [releaseDictionary]
  | p, some c, hc => by
    obtain ⟨hc_below, hc_nodup⟩ := release_below c hc
    refine ⟨?below, ?nodup⟩
    case below =>
      intro e he
      simp only [releaseDictionary, List.mem_append, List.mem_singleton] at he
      rcases he with he | rfl
      · exact (hc_below e he).1
      · exact List.prefix_rfl
    case nodup =>
      simp only [releaseDictionary, List.map_append, List.map_cons, List.map_nil,
        List.nodup_append, List.nodup_cons, List.not_mem_nil, not_false_eq_true,
        List.nodup_nil, and_self, List.mem_map, List.mem_singleton, true_and]
      refine ⟨hc_nodup, ?_⟩
      rintro _ ⟨e, he, rfl⟩ _ rfl hk
      have hpath : e.path = p ++ [.dictionary] := by
        simpa [ReleaseEvent.path] using congrArg Prod.fst hk
      have := congrArg Prod.snd (((hc_below e he).2 hpath).symm.trans hk)
      simp [ReleaseEvent.key] at this

end

end Exported

/-! ## A consumer's run -/

namespace Holding

variable {α : Type} {t : Exported α} {h h' : Holding α}

/-- What one move does. -/
theorem step_take_eq_some {r : Nat} {path : List Slot} :
    h.step (.take r path) = some h' ↔
      ∃ u m u', h.held[r]? = some u ∧ u.take path = some (m, u') ∧
        h' = ⟨h.held.set r u' ++ [m], h.events⟩ := by
  simp only [step, Option.bind_eq_bind, Option.bind_eq_some_iff, Option.pure_def,
    Option.some.injEq]
  constructor
  · rintro ⟨u, hu, ⟨m, u'⟩, hm, rfl⟩
    exact ⟨u, m, u', hu, hm, rfl⟩
  · rintro ⟨u, m, u', hu, hm, rfl⟩
    exact ⟨u, hu, (m, u'), hm, rfl⟩

/-- What one release does. -/
theorem step_release_eq_some {r : Nat} :
    h.step (.release r) = some h' ↔
      ∃ u, h.held[r]? = some u ∧ h' = ⟨h.held.set r .released, h.events ++ u.release⟩ := by
  simp only [step, Option.bind_eq_bind, Option.bind_eq_some_iff, Option.pure_def,
    Option.some.injEq]
  constructor <;> rintro ⟨u, hu, rfl⟩ <;> exact ⟨u, hu, rfl⟩

/-- The events so far, followed by what releasing everything still held would do, are
releasing `t` whole, in another order. -/
def Accounts (t : Exported α) (h : Holding α) : Prop :=
  (h.events ++ h.held.flatMap Exported.release).Perm t.release

theorem accounts_start (t : Exported α) : Accounts t (start t) := by
  simp [Accounts, start]

/-- Each step keeps the account: a move hands the moved descriptor's events from its old
parent to the consumer, a release hands the released descriptor's events to the done side. -/
theorem Accounts.step (ha : Accounts t h) : ∀ {a : Handling}, h.step a = some h' →
    Accounts t h'
  | .take r path, hs => by
    obtain ⟨u, m, u', hu, hm, rfl⟩ := step_take_eq_some.mp hs
    have hheld := Exported.flatMap_set_perm (Exported.release_perm_of_take hm) hu
    refine List.Perm.trans ?_ ha
    simpa only [List.flatMap_append, List.flatMap_cons, List.flatMap_nil, List.append_nil]
      using (hheld.append_left h.events).symm
  | .release r, hs => by
    obtain ⟨u, hu, rfl⟩ := step_release_eq_some.mp hs
    have hgone : u.release.Perm ((Exported.released : Exported α).release ++ u.release) := by
      simp [Exported.release]
    have hheld := Exported.flatMap_set_perm hgone hu
    refine List.Perm.trans ?_ ha
    simpa only [List.append_assoc] using
      (List.perm_append_comm.append_left h.events).trans (hheld.append_left h.events).symm

/-- A whole run keeps the account. -/
theorem Accounts.run : ∀ {acts : List Handling} {h h' : Holding α}, Accounts t h →
    h.run acts = some h' → Accounts t h'
  | [], _, _, ha, hr => by
    cases hr
    exact ha
  | a :: acts, h, h', ha, hr => by
    obtain ⟨h₁, hs, hr⟩ := Option.bind_eq_some_iff.mp hr
    exact (ha.step hs).run hr

/-- Releasing what is still held at the end completes the account. -/
theorem Accounts.finish (ha : Accounts t h) : h.finish.events.Perm t.release :=
  ha

/-- After the last release nothing live is held. -/
theorem finish_held {x : Exported α} (hx : x ∈ h.finish.held) : x = .released := by
  simp only [finish, List.mem_map] at hx
  obtain ⟨_, -, rfl⟩ := hx
  rfl

/-- Releasing a descriptor that is already released changes nothing. -/
theorem step_release_released {r : Nat} (hr : h.held[r]? = some .released) :
    h.step (.release r) = some h := by
  obtain ⟨hlt, hget⟩ := List.getElem?_eq_some_iff.mp hr
  have hset : h.held.set r .released = h.held := by
    rw [← hget, List.set_getElem_self]
  simp [step, hr, hset, Exported.release]

end Holding

/-! ## Releasing an export -/

section Releasing

variable {α : Type}

/-- What the release callbacks have done once a consumer released everything it holds: the
same events as releasing the export `t` untouched, so each box of `t` freed and each node's
private data dropped, with what it keeps; nothing twice; and nothing live left. -/
structure ReleasesOnce (t : Exported α) (h : Holding α) : Prop where
  asWhole : h.events.Perm t.release
  drops : (h.events.filterMap ReleaseEvent.dropped?).Perm t.nodes
  frees : (h.events.filterMap ReleaseEvent.freed?).Perm t.boxes
  once : (h.events.map ReleaseEvent.key).Nodup
  released : ∀ x ∈ h.held, x = .released

/-- Whatever a consumer of a placed tree moves out and releases, in whatever order, releasing
the rest at the end releases the tree exactly once. -/
theorem releasesOnce_of_run {p : List Slot} {t : Exported α} (ht : t.Placed p)
    {acts : List Handling} {h : Holding α} (hrun : (Holding.start t).run acts = some h) :
    ReleasesOnce t h.finish := by
  have hperm := ((Holding.accounts_start t).run hrun).finish
  refine ⟨hperm, ?_, ?_, ?_, fun _ hx => Holding.finish_held hx⟩
  · simpa only [Exported.dropped_release] using hperm.filterMap ReleaseEvent.dropped?
  · simpa only [Exported.freed_release] using hperm.filterMap ReleaseEvent.freed?
  · exact (hperm.map ReleaseEvent.key).nodup_iff.mpr (Exported.release_below t ht).2

/-- The release callback called on an untouched placed tree releases it exactly once. -/
theorem releasesOnce_release {p : List Slot} {t : Exported α} (ht : t.Placed p) :
    ReleasesOnce t ⟨[], t.release⟩ :=
  ⟨.refl _, by rw [Exported.dropped_release], by rw [Exported.freed_release],
    (Exported.release_below t ht).2, fun _ hx => absurd hx List.not_mem_nil⟩

end Releasing

/-! ## Exports are placed -/

namespace Column

mutual

/-- The nodes of a column's export sit at their paths. -/
theorem placed_exportTree (p : List Slot) (c : Column) : (c.exportTree p).Placed p := by
  unfold exportTree
  split
  · exact ⟨rfl, trivial, placed_exportTree _ _⟩
  · exact ⟨rfl, placed_exportTrees p 0 _, trivial⟩
  · exact ⟨rfl, ⟨placed_exportTree _ _, trivial⟩, trivial⟩
  · exact ⟨rfl, trivial, trivial⟩

theorem placed_exportTrees (p : List Slot) : (i : Nat) → (cs : List Column) →
    Exported.PlacedBoxes p i (exportTrees p i cs)
  | _, [] => trivial
  | i, c :: cs => ⟨placed_exportTree _ c, placed_exportTrees p (i + 1) cs⟩

end

end Column

mutual

/-- The nodes of a schema export sit at their paths. -/
theorem DataType.placed_exportTree (p : List Slot) (t : DataType) (name : String)
    (nullable : Bool) (metadata : Metadata) :
    (t.exportTree p name nullable metadata).Placed p := by
  unfold DataType.exportTree
  refine ⟨rfl, ?_, ?_⟩
  · split
    · exact Field.placed_exportTrees p 0 _
    · exact ⟨Field.placed_exportTree _ _, trivial⟩
    · exact ⟨Field.placed_exportTree _ _, trivial⟩
    · exact trivial
  · split
    · exact DataType.placed_exportTree _ _ _ _ _
    · exact trivial

theorem Field.placed_exportTree (p : List Slot) : (f : Field) → (f.exportTree p).Placed p
  | ⟨n, t, u, m⟩ => DataType.placed_exportTree p t n u m

theorem Field.placed_exportTrees (p : List Slot) : (i : Nat) → (fs : List Field) →
    Exported.PlacedBoxes p i (Field.exportTrees p i fs)
  | _, [] => trivial
  | i, f :: fs => ⟨Field.placed_exportTree _ f, Field.placed_exportTrees p (i + 1) fs⟩

end

/-- Releasing an exported array or schema, whatever the consumer moves out of it at any depth
and in whatever order it releases what it holds, frees every box and drops every node's
private data exactly once (for an array, the column clone and re-packed bitmaps it keeps; for a
schema, the field's texts), and leaves every descriptor released; releasing a released
descriptor does nothing. -/
theorem exports_release_exactly_once (c : Column) (f : Field) :
    (∀ acts h, (Holding.start (c.exportTree [])).run acts = some h →
      ReleasesOnce (c.exportTree []) h.finish) ∧
    (∀ acts h, (Holding.start (f.exportTree [])).run acts = some h →
      ReleasesOnce (f.exportTree []) h.finish) ∧
    (∀ (h : Holding ArrayKeep) r, h.held[r]? = some .released →
      h.step (.release r) = some h) ∧
    (∀ (h : Holding Field) r, h.held[r]? = some .released →
      h.step (.release r) = some h) :=
  ⟨fun _ _ hrun => releasesOnce_of_run (c.placed_exportTree []) hrun,
    fun _ _ hrun => releasesOnce_of_run (f.placed_exportTree []) hrun,
    fun _ _ hr => Holding.step_release_released hr,
    fun _ _ hr => Holding.step_release_released hr⟩

/-- A consumer that moves the first child out of an exported struct, releases the root and
then the child, and one that moves a list schema's item out and releases both. -/
theorem exports_release_exactly_once_moved_child :
    (∃ h, (Holding.start ((Column.struct [⟨"a", .null, true, .empty⟩] [.null 1] none 1).exportTree
        [])).run [.take 0 [.child 0], .release 0, .release 1] = some h ∧
      ReleasesOnce ((Column.struct [⟨"a", .null, true, .empty⟩] [.null 1] none 1).exportTree [])
        h.finish) ∧
    (∃ h, (Holding.start (Field.exportTree [] ⟨"s", .list ⟨"item", .int32, true, .empty⟩, true,
        .empty⟩)).run [.take 0 [.child 0], .release 1, .release 0] = some h ∧
      ReleasesOnce (Field.exportTree [] ⟨"s", .list ⟨"item", .int32, true, .empty⟩, true,
        .empty⟩) h.finish) :=
  ⟨⟨_, rfl, (exports_release_exactly_once (.struct [⟨"a", .null, true, .empty⟩] [.null 1] none 1)
      ⟨"s", .list ⟨"item", .int32, true, .empty⟩, true, .empty⟩).1
        [.take 0 [.child 0], .release 0, .release 1] _ rfl⟩,
    ⟨_, rfl, (exports_release_exactly_once (.struct [⟨"a", .null, true, .empty⟩] [.null 1] none 1)
      ⟨"s", .list ⟨"item", .int32, true, .empty⟩, true, .empty⟩).2.1
        [.take 0 [.child 0], .release 1, .release 0] _ rfl⟩⟩

end Columnar
