import QueryCanvas.Session.Basic

/-!
# The session registry

The open sessions under their ids, in the order they were added. A full registry makes room by dropping
the session that is not executing and was used longest ago; if every session is executing, nothing is
added.
-/

namespace QueryCanvas

/-- The open sessions, each under the key it was stored with, and how many there may be. -/
structure Registry where
  capacity : Int
  entries : List (String × Session)

namespace Registry

/-- The wording of the refusal when every session is executing. -/
def fullMessage : String :=
  "Too many sessions are executing queries, try again later"

/-- A registry without sessions. -/
def empty (capacity : Int) : Registry := ⟨capacity, []⟩

/-- The sessions, in the order they were added. -/
def sessions (r : Registry) : List Session :=
  r.entries.map (·.2)

/-- The keys, in the order they were added. -/
def keys (r : Registry) : List String :=
  r.entries.map (·.1)

/-- The session under a key. -/
def find? (r : Registry) (key : String) : Option Session :=
  (r.entries.find? (·.1 == key)).map (·.2)

/-- Puts a session in the place of the one under a key, if there is one. -/
def replace (r : Registry) (key : String) (s : Session) : Registry :=
  { r with entries := r.entries.map fun e => if e.1 == key then (key, s) else e }

/-- Stores a session under a key: in the place of the one that is there, or else as the last. -/
def put (r : Registry) (key : String) (s : Session) : Registry :=
  if r.keys.contains key then r.replace key s else { r with entries := r.entries ++ [(key, s)] }

/-- The registry without what is stored under a key. -/
def drop (r : Registry) (key : String) : Registry :=
  { r with entries := r.entries.filter (·.1 != key) }

/-- Whether there is no room for another session. -/
def isFull (r : Registry) : Bool :=
  r.capacity ≤ r.entries.length

/-- The session that was used longest ago; of several the one added first. -/
def longestUnused? : List Session → Option Session
  | [] => none
  | s :: ss =>
    match longestUnused? ss with
    | none => some s
    | some t => some (if t.lastUsed < s.lastUsed then t else s)

/-- The registry without the session that makes room for another, `none` if every session is
executing. -/
def makeRoom? (r : Registry) : Option Registry :=
  (longestUnused? (r.sessions.filter (!·.isExecuting))).map fun oldest => r.drop oldest.id

/-- Adds a session under its id, making room if there is none; `none` if no room can be made. -/
def add? (r : Registry) (s : Session) : Option Registry := do
  let r ← if r.isFull then r.makeRoom? else some r
  return r.put s.id s

/-- The session under a key, which counts as used now. -/
def get (r : Registry) (key : String) (clock : Clock) : Option Session × Registry × Clock :=
  match r.find? key with
  | none => (none, r, clock)
  | some s =>
    let (s, clock) := s.touch clock
    (some s, r.replace key s, clock)

/-- Removes the session under a key and asks for the cancellation of its run; the session as it
left. -/
def remove (r : Registry) (key : String) : Option Session × Registry :=
  match r.find? key with
  | none => (none, r)
  | some s => (some s.cancel.2, r.drop key)

/-! ## Lemmas -/

section Lemmas

variable {r : Registry} {key : String} {s : Session}

@[simp] theorem length_entries_replace (r : Registry) (key : String) (s : Session) :
    (r.replace key s).entries.length = r.entries.length := by
  simp [replace]

@[simp] theorem keys_replace (r : Registry) (key : String) (s : Session) : (r.replace key s).keys = r.keys := by
  simp only [keys, replace, List.map_map]
  refine List.map_congr_left fun e _ => ?_
  simp only [Function.comp]
  split
  next h => exact (eq_of_beq h).symm
  next => rfl

theorem keys_drop (r : Registry) (key : String) : (r.drop key).keys = r.keys.filter (· != key) := by
  simp only [keys, drop, List.filter_map]
  rfl

/-- A key that is new is stored last. -/
theorem entries_put (h : key ∉ r.keys) : (r.put key s).entries = r.entries ++ [(key, s)] := by
  unfold put
  rw [if_neg (by simpa using h)]

theorem isFull_iff : r.isFull = true ↔ r.capacity ≤ r.entries.length := by
  simp [isFull]

theorem longestUnused?_mem {ss : List Session} {s : Session} (h : longestUnused? ss = some s) : s ∈ ss := by
  induction ss generalizing s with
  | nil => cases h
  | cons a rest ih =>
    unfold longestUnused? at h
    cases hr : longestUnused? rest with
    | none =>
      rw [hr] at h
      cases h
      exact List.mem_cons_self
    | some t =>
      rw [hr] at h
      simp only [Option.some.injEq] at h
      split at h
      · exact h ▸ List.mem_cons_of_mem a (ih hr)
      · exact h ▸ List.mem_cons_self

theorem longestUnused?_eq_none {ss : List Session} : longestUnused? ss = none ↔ ss = [] := by
  cases ss with
  | nil => simp [longestUnused?]
  | cons a rest =>
    unfold longestUnused?
    cases longestUnused? rest <;> simp

/-- None was used before the session that was used longest ago. -/
theorem lastUsed_longestUnused? {ss : List Session} {s : Session} (h : longestUnused? ss = some s) :
    ∀ t ∈ ss, s.lastUsed ≤ t.lastUsed := by
  induction ss generalizing s with
  | nil => cases h
  | cons a rest ih =>
    unfold longestUnused? at h
    intro t ht
    cases hr : longestUnused? rest with
    | none =>
      rw [hr] at h
      cases h
      rw [longestUnused?_eq_none.1 hr, List.mem_singleton] at ht
      exact ht ▸ Nat.le_refl _
    | some u =>
      rw [hr, Option.some.injEq] at h
      have hu := ih hr
      rcases List.mem_cons.1 ht with rfl | ht
      · split at h <;> subst h <;> omega
      · have := hu t ht
        split at h <;> subst h <;> omega

end Lemmas

end Registry

end QueryCanvas
