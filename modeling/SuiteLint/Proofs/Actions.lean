import Mathlib.Tactic
import SuiteLint.Session.Run

/-!
# Laws of actions

An action starts from a session and leaves one behind. Three things are said here
about actions in general, so that no other proof has to open them up: how actions
one after the other print and stop (`Action.forEach_append`), what an action cannot
take away from a session (`Action.Maintains`), and what it means that an action does not
look at some part of the session (`Action.Relates`). The two latter are closed under all
the ways in which actions are put together.
-/

namespace SuiteLint

namespace Action

variable {α β γ : Type}

/-! ### One action after the other -/

/-- An action that begins with one that gives a result. -/
theorem andThen_of_ok {first : Action α} {next : α → Action β} {session after : Session}
    {out err : Text} {a : α} (h : first session = ⟨out, err, after, .ok a⟩) :
    andThen first next session =
      ⟨out ++ (next a after).out, err ++ (next a after).err, (next a after).session,
        (next a after).result⟩ := by
  unfold andThen
  rw [h]

/-- An action that is followed by one that prints nothing. -/
theorem andThen_of_silent {first : Action α} {next : α → Action β} {session after last : Session}
    {out err : Text} {a : α} {result : Except Stop β} (h : first session = ⟨out, err, after, .ok a⟩)
    (hnext : next a after = ⟨[], [], last, result⟩) :
    andThen first next session = ⟨out, err, last, result⟩ := by
  rw [andThen_of_ok h, hnext, List.append_nil, List.append_nil]

/-- An action that begins with one that stops. -/
theorem andThen_of_error {first : Action α} {next : α → Action β} {session after : Session}
    {out err : Text} {stop : Stop} (h : first session = ⟨out, err, after, .error stop⟩) :
    andThen first next session = ⟨out, err, after, .error stop⟩ := by
  unfold andThen
  rw [h]

/-- Only the session that the first action leaves behind matters to the second. -/
theorem andThen_congr {first first' : Action α} {next next' : α → Action β} {session : Session}
    (hfirst : first session = first' session)
    (hnext : ∀ a, next a (first session).session = next' a (first session).session) :
    andThen first next session = andThen first' next' session := by
  rcases heq : first session with ⟨out, err, after, stop | a⟩
  · rw [andThen_of_error heq, andThen_of_error (hfirst ▸ heq)]
  · rw [andThen_of_ok heq, andThen_of_ok (hfirst ▸ heq)]
    have h := hnext a
    rw [heq] at h
    rw [h]

theorem andThen_assoc (first : Action α) (next : α → Action β) (last : β → Action γ) :
    andThen (andThen first next) last = andThen first fun a => andThen (next a) last := by
  funext session
  rcases hfirst : first session with ⟨out, err, after, stop | a⟩
  · rw [andThen_of_error (andThen_of_error hfirst), andThen_of_error hfirst]
  · rw [andThen_of_ok hfirst]
    rcases hnext : next a after with ⟨out', err', after', stop | b⟩
    · have h : andThen first next session = _ := andThen_of_ok hfirst
      rw [hnext] at h
      rw [andThen_of_error h, andThen_of_error hnext]
    · have h : andThen first next session = _ := andThen_of_ok hfirst
      rw [hnext] at h
      rw [andThen_of_ok h, andThen_of_ok hnext]
      simp only [List.append_assoc]

theorem forEach_append (f : α → Action Unit) (as bs : List α) :
    forEach f (as ++ bs) = andThen (forEach f as) fun _ => forEach f bs := by
  induction as with
  | nil => rfl
  | cons a as ih =>
    rw [List.cons_append, forEach, forEach, ih, andThen_assoc]

theorem andThen_done (action : Action Unit) : andThen action (fun _ => done ()) = action := by
  funext session
  rcases heq : action session with ⟨out, err, after, stop | _⟩
  · rw [andThen_of_error heq]
  · rw [andThen_of_ok heq]
    simp [done]

theorem forEach_map (f : β → Action Unit) (g : α → β) (as : List α) :
    forEach f (as.map g) = forEach (fun a => f (g a)) as := by
  induction as with
  | nil => rfl
  | cons a as ih => rw [List.map_cons, forEach, forEach, ih]

theorem forEach_flatMap (f : β → Action Unit) (g : α → List β) (as : List α) :
    forEach f (as.flatMap g) = forEach (fun a => forEach f (g a)) as := by
  induction as with
  | nil => rfl
  | cons a as ih => rw [List.flatMap_cons, forEach_append, forEach, ih]

/-! ### What an action leaves alone -/

/-- A session with the property still has it after the action, also if this stops early. -/
def Maintains (P : Session → Prop) (action : Action α) : Prop :=
  ∀ session, P session → P (action session).session

section Maintains

variable {P : Session → Prop}

theorem maintains_done (a : α) : Maintains P (done a) := fun _ h => h

theorem maintains_stop (reason : Stop) : Maintains P (stop reason : Action α) := fun _ h => h

theorem maintains_fail (fault : Fault) : Maintains P (fail fault : Action α) := fun _ h => h

theorem maintains_print (text : Text) : Maintains P (print text) := fun _ h => h

theorem maintains_complain (text : Text) : Maintains P (complain text) := fun _ h => h

theorem maintains_current : Maintains P current := fun _ h => h

theorem maintains_update {f : Session → Session} (h : ∀ session, P session → P (f session)) :
    Maintains P (update f) := h

theorem maintains_ofExcept (result : Except Fault α) : Maintains P (ofExcept result) := by
  cases result with
  | ok a => exact maintains_done a
  | error fault => exact maintains_fail fault

theorem maintains_bind {first : Action α} {next : α → Action β} (hfirst : Maintains P first)
    (hnext : ∀ a, Maintains P (next a)) : Maintains P (first >>= next) := by
  intro session hsession
  change P (andThen first next session).session
  have h := hfirst session hsession
  rcases heq : first session with ⟨out, err, after, stop | a⟩
  · rw [andThen_of_error heq]
    rwa [heq] at h
  · rw [andThen_of_ok heq]
    rw [heq] at h
    exact hnext a after h

theorem maintains_forEach {f : α → Action Unit} (h : ∀ a, Maintains P (f a)) (as : List α) :
    Maintains P (forEach f as) := by
  induction as with
  | nil => exact maintains_done ()
  | cons a as ih => exact maintains_bind (h a) fun _ => ih

/-- Two ways to do something for each element come to the same if they do in all sessions
that can be met on the way. -/
theorem forEach_congr {f g : α → Action Unit} (hmaintains : ∀ a, Maintains P (f a))
    (h : ∀ a session, P session → f a session = g a session) (as : List α) {start : Session}
    (hstart : P start) : forEach f as start = forEach g as start := by
  induction as generalizing start with
  | nil => rfl
  | cons a as ih =>
    rw [forEach, forEach]
    exact andThen_congr (h a start hstart) fun _ => ih (hmaintains a start hstart)

theorem maintains_passOver {action : Action Unit} (h : Maintains P action) :
    Maintains P action.passOver := by
  intro session hsession
  unfold passOver
  simp only
  split
  · split
    · exact h session hsession
    · exact h session hsession
  · exact h session hsession

end Maintains

/-! ### What an action does not look at -/

/-- Two outcomes that print the same, have the same result, and leave sessions behind
that are related. -/
structure Alike (R : Session → Session → Prop) (a b : Outcome α) : Prop where
  /-- They print the same to standard output. -/
  out : a.out = b.out
  /-- They print the same to standard error. -/
  err : a.err = b.err
  /-- The sessions are related. -/
  session : R a.session b.session
  /-- They have the same result. -/
  result : a.result = b.result

/-- From related sessions the action does the same, and the sessions it leaves behind are
again related, in a way that may be another one. -/
def Relates (R S : Session → Session → Prop) (action : Action α) : Prop :=
  ∀ s t, R s t → Alike S (action s) (action t)

section Relates

variable {R S T : Session → Session → Prop}

theorem relates_done (a : α) : Relates R R (done a) := fun _ _ h => ⟨rfl, rfl, h, rfl⟩

theorem relates_fail (fault : Fault) : Relates R R (fail fault : Action α) :=
  fun _ _ h => ⟨rfl, rfl, h, rfl⟩

theorem relates_print (text : Text) : Relates R R (print text) := fun _ _ h => ⟨rfl, rfl, h, rfl⟩

theorem relates_complain (text : Text) : Relates R R (complain text) :=
  fun _ _ h => ⟨rfl, rfl, h, rfl⟩

theorem relates_update {f : Session → Session} (hf : ∀ s t, R s t → S (f s) (f t)) :
    Relates R S (update f) := fun s t h => ⟨rfl, rfl, hf s t h, rfl⟩

theorem relates_ofExcept (result : Except Fault α) : Relates R R (ofExcept result) := by
  cases result with
  | ok a => exact relates_done a
  | error fault => exact relates_fail fault

/-- One action after another. Where the first one stops, the sessions have to be related
in the last way already. -/
theorem relates_bind {first : Action α} {next : α → Action β} (hST : ∀ s t, S s t → T s t)
    (hfirst : Relates R S first) (hnext : ∀ a, Relates S T (next a)) :
    Relates R T (first >>= next) := by
  intro s t hst
  change Alike T (andThen first next s) (andThen first next t)
  obtain ⟨hout, herr, hsession, hresult⟩ := hfirst s t hst
  rcases hs : first s with ⟨out, err, s', stop | a⟩
  · rcases ht : first t with ⟨out', err', t', stop' | a'⟩
    · rw [hs, ht] at hout herr hsession hresult
      rw [andThen_of_error hs, andThen_of_error ht]
      exact ⟨hout, herr, hST _ _ hsession, by cases hresult; rfl⟩
    · rw [hs, ht] at hresult
      cases hresult
  · rcases ht : first t with ⟨out', err', t', stop' | a'⟩
    · rw [hs, ht] at hresult
      cases hresult
    · rw [hs, ht] at hout herr hsession hresult
      obtain rfl : a = a' := by
        cases hresult
        rfl
      obtain ⟨hout', herr', hsession', hresult'⟩ := hnext a s' t' hsession
      rw [andThen_of_ok hs, andThen_of_ok ht]
      exact ⟨congrArg₂ _ hout hout', congrArg₂ _ herr herr', hsession', hresult'⟩

/-- An action that looks at the session only through what related sessions agree on. -/
theorem relates_current_bind {next : Session → Action β}
    (h : ∀ s t, R s t → Alike S (next s s) (next t t)) : Relates R S (current >>= next) := by
  intro s t hst
  obtain ⟨hout, herr, hsession, hresult⟩ := h s t hst
  exact ⟨hout, herr, hsession, hresult⟩

theorem relates_forEach {f : α → Action Unit} (h : ∀ a, Relates R R (f a)) (as : List α) :
    Relates R R (forEach f as) := by
  induction as with
  | nil => exact relates_done ()
  | cons a as ih => exact relates_bind (fun _ _ h => h) (h a) fun _ => ih

theorem relates_passOver {action : Action Unit} (h : Relates R R action) :
    Relates R R action.passOver := by
  intro s t hst
  obtain ⟨hout, herr, hsession, hresult⟩ := h s t hst
  unfold passOver
  simp only [← hresult]
  split
  · split
    · exact ⟨hout, herr, hsession, rfl⟩
    · exact ⟨hout, herr, hsession, hresult⟩
  · exact ⟨hout, herr, hsession, hresult⟩

end Relates

end Action

end SuiteLint
