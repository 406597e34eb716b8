import Mathlib.Data.List.Forall2
import ApiProxy.Progress

/-! Success and failure of composed computations: a sequence succeeds where all of its steps do, and fails with
the failure of the first step that fails. -/

namespace ApiProxy

universe u v

variable {ε α β : Type}

/-- The first of the values that has the property. -/
def First (p : α → Prop) (values : List α) (found : α) : Prop :=
  ∃ before after, values = before ++ found :: after ∧ p found ∧ ∀ earlier ∈ before, ¬p earlier

theorem First.mem {p : α → Prop} {values : List α} {found : α} (h : First p values found) : found ∈ values := by
  obtain ⟨before, after, rfl, _, _⟩ := h
  exact List.mem_append_right before List.mem_cons_self

theorem First.holds {p : α → Prop} {values : List α} {found : α} (h : First p values found) : p found := by
  obtain ⟨before, after, _, hfound, _⟩ := h
  exact hfound

theorem First.congr {p q : α → Prop} {values : List α} {found : α} (h : First p values found)
    (hiff : ∀ value, p value ↔ q value) : First q values found := by
  obtain ⟨before, after, hsplit, hfound, hbefore⟩ := h
  exact ⟨before, after, hsplit, (hiff found).mp hfound, fun earlier hearlier hq =>
    hbefore earlier hearlier ((hiff earlier).mpr hq)⟩

theorem First.head {p : α → Prop} {value : α} (values : List α) (h : p value) : First p (value :: values) value :=
  ⟨[], values, rfl, h, fun _ hearlier => absurd hearlier List.not_mem_nil⟩

theorem First.cons {p : α → Prop} {value found : α} {values : List α} (hvalue : ¬p value)
    (h : First p values found) : First p (value :: values) found := by
  obtain ⟨before, after, rfl, hfound, hbefore⟩ := h
  exact ⟨value :: before, after, rfl, hfound, List.forall_mem_cons.mpr ⟨hvalue, hbefore⟩⟩

theorem First.unique {p : α → Prop} {values : List α} {found twin : α} (h : First p values found)
    (htwin : First p values twin) : found = twin := by
  obtain ⟨before, after, rfl, hfound, hbefore⟩ := h
  obtain ⟨front, back, hsplit, htwin, hfront⟩ := htwin
  rcases List.append_eq_append_iff.mp hsplit with ⟨_ | ⟨next, middle⟩, rfl, hback⟩ | ⟨_ | ⟨next, middle⟩, rfl, hback⟩
  · exact (List.cons.inj hback).1
  · cases (List.cons.inj hback).1
    exact absurd hfound (hfront _ (List.mem_append_right before List.mem_cons_self))
  · exact (List.cons.inj hback).1.symm
  · cases (List.cons.inj hback).1
    exact absurd htwin (hbefore _ (List.mem_append_right front List.mem_cons_self))

theorem exists_first {p : α → Prop} {values : List α} (h : ∃ value ∈ values, p value) :
    ∃ found, First p values found := by
  induction values with
  | nil => simp at h
  | cons value values ih =>
      by_cases hvalue : p value
      · exact ⟨value, .head values hvalue⟩
      · obtain ⟨other, hother, hp⟩ := h
        rcases List.mem_cons.mp hother with rfl | hother
        · exact absurd hp hvalue
        · obtain ⟨found, hfound⟩ := ih ⟨other, hother, hp⟩
          exact ⟨found, hfound.cons hvalue⟩

theorem exists_left_of_forall₂ {α : Type u} {β : Type v} {R : α → β → Prop} {left : List α} {right : List β}
    (h : List.Forall₂ R left right) {b : β} (hb : b ∈ right) : ∃ a ∈ left, R a b := by
  obtain ⟨n, hn, rfl⟩ := List.mem_iff_getElem.mp hb
  have hleft : n < left.length := h.length_eq ▸ hn
  exact ⟨left[n], List.getElem_mem hleft, h.get hleft hn⟩

theorem exists_right_of_forall₂ {α : Type u} {β : Type v} {R : α → β → Prop} {left : List α} {right : List β}
    (h : List.Forall₂ R left right) {a : α} (ha : a ∈ left) : ∃ b ∈ right, R a b :=
  exists_left_of_forall₂ h.flip ha

theorem exists_mem_iff_of_forall₂ {R : α → β → Prop} {p : α → Prop} {q : β → Prop} {left : List α}
    {right : List β} (h : List.Forall₂ R left right) (hiff : ∀ a b, R a b → (q b ↔ p a)) :
    (∃ b ∈ right, q b) ↔ ∃ a ∈ left, p a := by
  induction h with
  | nil => simp
  | cons hhead _ ih =>
      rw [List.exists_mem_cons_iff, List.exists_mem_cons_iff, ih, hiff _ _ hhead]

/-- The failure of an outcome, if it has one. -/
def failure? : Except Failure α → Option Failure
  | .ok _ => none
  | .error failure => some failure

theorem stateM_bind_apply {τ : Type} (first : StateM τ α) (next : α → StateM τ β) (world : τ) :
    (first >>= next) world = next (first world).1 (first world).2 := rfl

namespace Outcome

theorem failure?_eq_none_iff {outcome : Except Failure α} :
    failure? outcome = none ↔ ∃ value, outcome = .ok value := by
  cases outcome <;> simp [failure?]

theorem failure?_eq_some_iff {outcome : Except Failure α} {failure : Failure} :
    failure? outcome = some failure ↔ outcome = .error failure := by
  cases outcome <;> simp [failure?]

@[simp]
theorem failure?_map (outcome : Except Failure α) (f : α → β) : failure? (outcome.map f) = failure? outcome := by
  cases outcome <;> rfl

/-- What comes second is tried only if what comes first succeeds. -/
theorem failure?_bind {first : Except Failure α} {next : α → Except Failure β} {rest : Option Failure}
    (hnext : ∀ value, first = .ok value → failure? (next value) = rest) :
    failure? (first >>= next) = (failure? first).or rest := by
  cases first with
  | ok value => exact hnext value rfl
  | error failure => rfl

theorem failure?_bind_of_ok {first : Except Failure α} {next : α → Except Failure β}
    (hnext : ∀ value, failure? (next value) = none) : failure? (first >>= next) = failure? first :=
  (failure?_bind fun value _ => hnext value).trans Option.or_none

@[simp]
theorem ok_bind (value : α) (next : α → Except ε β) : (Except.ok value >>= next) = next value := rfl

theorem bind_eq_ok_iff {first : Except ε α} {next : α → Except ε β} {result : β} :
    (first >>= next) = .ok result ↔ ∃ value, first = .ok value ∧ next value = .ok result := by
  cases first <;> simp [bind, Except.bind]

/-- A check that yields nothing is passed on by what follows it. -/
theorem check_bind_eq_ok_iff {first : Except ε Unit} {next : Unit → Except ε β} {result : β} :
    (first >>= next) = .ok result ↔ first = .ok () ∧ next () = .ok result := by
  cases first <;> simp [bind, Except.bind]

theorem bind_congr {first : Except Failure α} {next other : α → Except Failure β}
    (h : ∀ value, first = .ok value → next value = other value) : first >>= next = first >>= other := by
  cases first with
  | error failure => rfl
  | ok value => exact h value rfl

theorem mapM_congr {f g : α → Except Failure β} {values : List α} (h : ∀ value ∈ values, f value = g value) :
    values.mapM f = values.mapM g := by
  induction values with
  | nil => rfl
  | cons value values ih =>
      rw [List.forall_mem_cons] at h
      rw [List.mapM_cons, List.mapM_cons, h.1, ih h.2]

theorem map_eq_ok_iff {first : Except ε α} {f : α → β} {result : β} :
    first.map f = .ok result ↔ ∃ value, first = .ok value ∧ f value = result := by
  cases first <;> simp [Except.map]

theorem mapError_eq_ok_iff {φ : Type} {first : Except ε α} {f : ε → φ} {result : α} :
    first.mapError f = .ok result ↔ first = .ok result := by
  cases first <;> simp [Except.mapError]

theorem failure?_mapM (f : α → Except Failure β) (values : List α) :
    failure? (values.mapM f) = values.findSome? fun value => failure? (f value) := by
  induction values with
  | nil => rfl
  | cons value values ih =>
      rw [List.mapM_cons, List.findSome?_cons]
      cases hvalue : f value with
      | error failure => rfl
      | ok result =>
          calc
            _ = failure? (values.mapM f >>= fun others => pure (result :: others)) := rfl
            _ = failure? (values.mapM f) := failure?_bind_of_ok fun _ => rfl
            _ = _ := ih

theorem findSome?_eq_some_iff {γ : Type} {f : α → Option γ} {values : List α} {result : γ} :
    values.findSome? f = some result ↔
      ∃ found, First (fun value => ∃ other, f value = some other) values found ∧ f found = some result := by
  rw [List.findSome?_eq_some_iff]
  constructor
  · rintro ⟨before, found, after, hsplit, hfound, hbefore⟩
    refine ⟨found, ⟨before, after, hsplit, ⟨result, hfound⟩, ?_⟩, hfound⟩
    rintro earlier hearlier ⟨other, hother⟩
    rw [hbefore earlier hearlier] at hother
    cases hother
  · rintro ⟨found, ⟨before, after, hsplit, _, hbefore⟩, hfound⟩
    refine ⟨before, found, after, hsplit, hfound, ?_⟩
    intro earlier hearlier
    exact Option.eq_none_iff_forall_ne_some.mpr fun other hother => hbefore earlier hearlier ⟨other, hother⟩

/-- The first step that fails ends a sequence. -/
theorem findSome?_eq_of_forall {γ : Type} {f : α → Option γ} {values : List α} {result : γ}
    (hall : ∀ value ∈ values, ∀ found, f value = some found → found = result)
    (hsome : ∃ value ∈ values, f value = some result) : values.findSome? f = some result := by
  cases hfound : values.findSome? f with
  | none =>
      obtain ⟨value, hvalue, hresult⟩ := hsome
      cases (List.findSome?_eq_none_iff.mp hfound value hvalue).symm.trans hresult
  | some found =>
      obtain ⟨value, hvalue, hresult⟩ := List.exists_of_findSome?_eq_some hfound
      rw [hall value hvalue found hresult]

theorem mapM_eq_error_iff {f : α → Except Failure β} {values : List α} {failure : Failure} :
    values.mapM f = .error failure ↔
      ∃ found, First (fun value => ∃ other, f value = .error other) values found ∧ f found = .error failure := by
  rw [← failure?_eq_some_iff, failure?_mapM, findSome?_eq_some_iff]
  simp only [failure?_eq_some_iff]

theorem succeeds_of_mapM {f : α → Except Failure β} {values : List α} {results : List β} {value : α}
    (h : values.mapM f = .ok results) (hvalue : value ∈ values) : ∃ result, f value = .ok result := by
  have hnone := failure?_mapM f values
  rw [h, eq_comm, failure?, List.findSome?_eq_none_iff] at hnone
  exact failure?_eq_none_iff.mp (hnone value hvalue)

theorem mapM_eq_ok_iff {f : α → Except ε β} {values : List α} {results : List β} :
    values.mapM f = .ok results ↔ List.Forall₂ (fun value result => f value = .ok result) values results := by
  induction values generalizing results with
  | nil =>
      rw [List.forall₂_nil_left_iff]
      simp [pure, Except.pure, eq_comm]
  | cons value values ih =>
      rw [List.mapM_cons, bind_eq_ok_iff, List.forall₂_cons_left_iff]
      constructor
      · rintro ⟨result, hresult, hrest⟩
        obtain ⟨others, hothers, hsame⟩ := bind_eq_ok_iff.mp hrest
        cases hsame
        exact ⟨result, others, hresult, ih.mp hothers, rfl⟩
      · rintro ⟨result, others, hresult, hothers, rfl⟩
        exact ⟨result, hresult, bind_eq_ok_iff.mpr ⟨others, ih.mpr hothers, rfl⟩⟩

theorem mapM_eq_some_iff {f : α → Option β} {values : List α} {results : List β} :
    values.mapM f = some results ↔ List.Forall₂ (fun value result => f value = some result) values results := by
  induction values generalizing results with
  | nil =>
      rw [List.forall₂_nil_left_iff]
      simp [eq_comm]
  | cons value values ih =>
      rw [List.mapM_cons, List.forall₂_cons_left_iff]
      constructor
      · intro h
        obtain ⟨result, hresult, hrest⟩ := Option.bind_eq_some_iff.mp h
        obtain ⟨others, hothers, hsame⟩ := Option.bind_eq_some_iff.mp hrest
        cases hsame
        exact ⟨result, others, hresult, ih.mp hothers, rfl⟩
      · rintro ⟨result, others, hresult, hothers, rfl⟩
        exact Option.bind_eq_some_iff.mpr ⟨result, hresult, Option.bind_eq_some_iff.mpr ⟨others, ih.mpr hothers, rfl⟩⟩

theorem mem_of_mapM {f : α → Except Failure β} {values : List α} {results : List β}
    (h : values.mapM f = .ok results) {result : β} :
    result ∈ results ↔ ∃ value ∈ values, f value = .ok result := by
  induction mapM_eq_ok_iff.mp h with
  | nil => simp
  | @cons value first values results hfirst hrest ih =>
      rw [List.mem_cons, ih (mapM_eq_ok_iff.mpr hrest)]
      constructor
      · rintro (rfl | ⟨other, hother, hresult⟩)
        · exact ⟨value, List.mem_cons_self, hfirst⟩
        · exact ⟨other, List.mem_cons_of_mem value hother, hresult⟩
      · rintro ⟨other, hother, hresult⟩
        rcases List.mem_cons.mp hother with rfl | hother
        · exact Or.inl (Except.ok.inj (hresult.symm.trans hfirst))
        · exact Or.inr ⟨other, hother, hresult⟩

theorem findSome?_flatMap {γ : Type} (f : β → Option γ) (g : α → List β) (values : List α) :
    (values.flatMap g).findSome? f = values.findSome? fun value => (g value).findSome? f := by
  induction values with
  | nil => rfl
  | cons value values ih =>
      rw [List.flatMap_cons, List.findSome?_append, List.findSome?_cons, ih]
      cases (g value).findSome? f <;> rfl

end Outcome

namespace Traced

@[simp]
theorem outcome_pure (value : α) : (pure value : Traced α).outcome = .ok value := rfl

@[simp]
theorem outcome_ofExcept (outcome : Except Failure α) : (ofExcept outcome).outcome = outcome := rfl

@[simp]
theorem outcome_report (event : Event) : (report event).outcome = .ok () := rfl

@[simp]
theorem outcome_bind (first : Traced α) (next : α → Traced β) :
    (first >>= next).outcome = first.outcome >>= fun value => (next value).outcome := by
  show (first.andThen next).outcome = _
  cases h : first.outcome with
  | ok value =>
      rw [andThen_of_ok h]
      rfl
  | error failure =>
      rw [andThen_of_error h]
      rfl

end Traced

end ApiProxy
