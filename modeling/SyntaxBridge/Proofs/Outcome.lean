import Mathlib.Data.List.Forall2

/-!
# Outcomes of steps that may fail

A step ends in a value or in an error, and a sequence of steps ends in the error of the first one
that fails. This file takes such sequences apart:

* `bind_eq_ok_iff`, `bind_eq_error_iff`: how two steps in a row end;
* `mapM_eq_ok_iff`, `mapM_eq_error_iff`: how one step for each entry of a list ends;
* `forM_eq_ok_iff`, `forM_eq_error_iff`: how a check of each entry ends;
* `foldlM_eq_ok`, `exists_foldlM_eq_ok`: what is kept by steps that each go on from where the last
  one ended, and that they succeed if each of them can be taken;
* `ErrorsHave`: which errors a sequence of steps may end in.

Two computations are compared in two ways. `mapBoth` replaces the error and the value of an outcome,
and it passes through steps in a row (`mapBoth_bind`) and through a step for each entry
(`mapM_mapBoth`). `Agree` relates outcomes that are both errors or both values.
-/

namespace SyntaxBridge.Outcome

variable {ε ε' α β : Type}

/-- Two steps in a row succeed exactly if both do. -/
theorem bind_eq_ok_iff {x : Except ε α} {f : α → Except ε β} {b : β} :
    x >>= f = .ok b ↔ ∃ a, x = .ok a ∧ f a = .ok b := by
  cases x <;> simp [bind, Except.bind]

/-- Two steps in a row fail with the error of the first, or else with that of the second. -/
theorem bind_eq_error_iff {x : Except ε α} {f : α → Except ε β} {e : ε} :
    x >>= f = .error e ↔ x = .error e ∨ ∃ a, x = .ok a ∧ f a = .error e := by
  cases x <;> simp [bind, Except.bind]

/-- A check that fails under a condition passes, and what follows it succeeds. -/
theorem ite_throw_eq_ok_iff {p : Prop} [Decidable p] {e : ε} {f : PUnit → Except ε α} {a : α} :
    (if p then throw e >>= f else f ⟨⟩) = .ok a ↔ ¬p ∧ f ⟨⟩ = .ok a := by
  by_cases h : p
  · simp [h, throw, throwThe, MonadExceptOf.throw, bind, Except.bind]
  · simp [h]

/-- A step for each entry succeeds exactly if all of them do. -/
theorem mapM_eq_ok_iff {f : α → Except ε β} {as : List α} {bs : List β} :
    as.mapM f = .ok bs ↔ List.Forall₂ (fun a b => f a = .ok b) as bs := by
  induction as generalizing bs with
  | nil => cases bs <;> simp [pure, Except.pure]
  | cons a as ih =>
    rw [List.mapM_cons, bind_eq_ok_iff]
    constructor
    · rintro ⟨b, hb, h⟩
      obtain ⟨rest, hrest, h⟩ := bind_eq_ok_iff.mp h
      cases h
      exact .cons hb (ih.mp hrest)
    · rintro (_ | ⟨hb, hrest⟩)
      exact ⟨_, hb, bind_eq_ok_iff.mpr ⟨_, ih.mpr hrest, rfl⟩⟩

/-- What each step keeps holds to the end, and each entry takes its step from where it holds. -/
theorem foldlM_eq_ok {step : β → α → Except ε β} {P : β → Prop} {as : List α} {b c : β}
    (h : as.foldlM step b = .ok c) (hb : P b)
    (hstep : ∀ a ∈ as, ∀ s t, P s → step s a = .ok t → P t) :
    P c ∧ ∀ a ∈ as, ∃ s t, P s ∧ step s a = .ok t := by
  induction as generalizing b with
  | nil =>
    cases h
    exact ⟨hb, by simp⟩
  | cons a as ih =>
    rw [List.foldlM_cons, bind_eq_ok_iff] at h
    obtain ⟨next, hnext, hrest⟩ := h
    have kept := hstep a List.mem_cons_self b next hb hnext
    obtain ⟨last, steps⟩ := ih hrest kept fun x hx => hstep x (List.mem_cons_of_mem _ hx)
    exact ⟨last, List.forall_mem_cons.mpr ⟨⟨b, next, hb, hnext⟩, steps⟩⟩

/-- Steps succeed one after the other if each of them can be taken from where the last one ended. -/
theorem exists_foldlM_eq_ok {step : β → α → Except ε β} {P : β → Prop} {as : List α} {b : β}
    (hb : P b) (hstep : ∀ a ∈ as, ∀ s, P s → ∃ t, step s a = .ok t ∧ P t) :
    ∃ c, as.foldlM step b = .ok c ∧ P c := by
  induction as generalizing b with
  | nil => exact ⟨b, rfl, hb⟩
  | cons a as ih =>
    obtain ⟨next, hnext, kept⟩ := hstep a List.mem_cons_self b hb
    obtain ⟨c, hc, last⟩ := ih kept fun x hx => hstep x (List.mem_cons_of_mem _ hx)
    exact ⟨c, bind_eq_ok_iff.mpr ⟨next, hnext, hc⟩, last⟩

/-- Outcomes are put together exactly if all of them are values. -/
theorem mapM_id_eq_ok_iff {xs : List (Except ε α)} {as : List α} :
    xs.mapM id = .ok as ↔ xs = as.map .ok := by
  rw [mapM_eq_ok_iff, ← List.forall₂_eq_eq_eq, List.forall₂_map_right_iff]
  rfl

/-- A step for each entry fails with the error of the first entry whose step fails. -/
theorem mapM_eq_error_iff {f : α → Except ε β} {as : List α} {e : ε} :
    as.mapM f = .error e ↔
      ∃ before a after, as = before ++ a :: after ∧ (∀ x ∈ before, ∃ b, f x = .ok b) ∧
        f a = .error e := by
  induction as with
  | nil => simp [pure, Except.pure]
  | cons first as ih =>
    rw [List.mapM_cons, bind_eq_error_iff]
    -- Either the step for the first entry fails, or nothing stands before the failure but that
    -- entry and what the induction finds.
    constructor
    · rintro (hfirst | ⟨b, hb, h⟩)
      · exact ⟨[], first, as, rfl, by simp, hfirst⟩
      · rcases bind_eq_error_iff.mp h with h | ⟨_, _, h⟩
        · obtain ⟨before, a, after, rfl, hbefore, ha⟩ := ih.mp h
          exact ⟨first :: before, a, after, rfl, by simpa using ⟨⟨b, hb⟩, hbefore⟩, ha⟩
        · cases h
    · rintro ⟨_ | ⟨x, before⟩, a, after, h, hbefore, ha⟩
      · cases h
        exact .inl ha
      · cases h
        obtain ⟨b, hb⟩ := hbefore first List.mem_cons_self
        refine .inr ⟨b, hb, bind_eq_error_iff.mpr (.inl (ih.mpr ⟨before, a, after, rfl, ?_, ha⟩))⟩
        exact fun y hy => hbefore y (List.mem_cons_of_mem _ hy)

/-- A step for each entry fails exactly if one of them does. -/
theorem exists_mapM_eq_error_iff {f : α → Except ε β} {as : List α} :
    (∃ e, as.mapM f = .error e) ↔ ∃ a ∈ as, ∃ e, f a = .error e := by
  constructor
  · rintro ⟨e, h⟩
    obtain ⟨before, a, after, rfl, -, ha⟩ := mapM_eq_error_iff.mp h
    exact ⟨a, by simp, e, ha⟩
  · rintro ⟨a, hmem, e, ha⟩
    cases h : as.mapM f with
    | error e' => exact ⟨e', rfl⟩
    | ok bs =>
      -- If all steps succeeded, so would the one at the place of `a`.
      obtain ⟨i, hi, rfl⟩ := List.mem_iff_getElem.mp hmem
      have hforall := List.forall₂_iff_get.mp (mapM_eq_ok_iff.mp h)
      have hok := hforall.2 i hi (hforall.1 ▸ hi)
      rw [List.get_eq_getElem, ha] at hok
      cases hok

/-- A check of each entry succeeds exactly if every entry passes. -/
theorem forM_eq_ok_iff {f : α → Except ε Unit} {as : List α} :
    as.forM f = .ok () ↔ ∀ a ∈ as, f a = .ok () := by
  induction as with
  | nil => simp [pure, Except.pure]
  | cons a as ih =>
    change (f a >>= fun _ => as.forM f) = .ok () ↔ _
    rw [bind_eq_ok_iff, List.forall_mem_cons, ← ih]
    exact ⟨fun ⟨_, ha, has⟩ => ⟨ha, has⟩, fun h => ⟨(), h⟩⟩

/-- A check of each entry is a step for each entry whose values are not kept. -/
theorem forM_eq_map_mapM (f : α → Except ε Unit) (as : List α) :
    as.forM f = (as.mapM f).map fun _ => () := by
  induction as with
  | nil => rfl
  | cons a as ih =>
    rw [List.mapM_cons]
    change (f a >>= fun _ => as.forM f) = _
    rw [ih]
    cases f a with
    | error e => rfl
    | ok _ => cases as.mapM f <;> rfl

/-- A check of each entry fails with the error of the first entry that does not pass. -/
theorem forM_eq_error_iff {f : α → Except ε Unit} {as : List α} {e : ε} :
    as.forM f = .error e ↔
      ∃ before a after, as = before ++ a :: after ∧ (∀ x ∈ before, f x = .ok ()) ∧
        f a = .error e := by
  have hmapM : as.forM f = .error e ↔ as.mapM f = .error e := by
    rw [forM_eq_map_mapM]
    cases as.mapM f <;> simp [Except.map]
  have hpasses (x : α) : (∃ b, f x = .ok b) ↔ f x = .ok () := by
    constructor
    · rintro ⟨⟨⟩, h⟩
      exact h
    · exact fun h => ⟨(), h⟩
  rw [hmapM, mapM_eq_error_iff]
  simp only [hpasses]

/-- Entries that pass need not be checked. -/
theorem forM_filter_eq {f : α → Except ε Unit} {keep : α → Bool} {as : List α}
    (h : ∀ a ∈ as, keep a = false → f a = .ok ()) :
    (as.filter keep).forM f = as.forM f := by
  induction as with
  | nil => rfl
  | cons a as ih =>
    rw [List.forall_mem_cons] at h
    rw [List.filter_cons]
    change _ = f a >>= fun _ => as.forM f
    cases hkeep : keep a with
    | true =>
      rw [if_pos rfl, ← ih h.2]
      rfl
    | false =>
      rw [if_neg Bool.false_ne_true, ih h.2, h.1 hkeep]
      rfl

/-! ## Errors with a property -/

/-- Whatever error an outcome is, it has a property. -/
def ErrorsHave (P : ε → Prop) (x : Except ε α) : Prop :=
  ∀ e, x = .error e → P e

section ErrorsHave

variable {P : ε → Prop}

@[simp]
theorem errorsHave_ok (a : α) : ErrorsHave P (.ok a : Except ε α) :=
  fun _ h => nomatch h

@[simp]
theorem errorsHave_error {e : ε} : ErrorsHave P (.error e : Except ε α) ↔ P e :=
  ⟨fun h => h e rfl, fun h _ he => Except.error.inj he ▸ h⟩

/-- The errors of two steps in a row are those of the first and those of the second. -/
theorem ErrorsHave.bind {x : Except ε α} {f : α → Except ε β} (hx : ErrorsHave P x)
    (hf : ∀ a, x = .ok a → ErrorsHave P (f a)) : ErrorsHave P (x >>= f) := by
  intro e h
  rcases bind_eq_error_iff.mp h with h | ⟨a, ha, h⟩
  · exact hx e h
  · exact hf a ha e h

/-- The errors of a step for each entry are those of the steps. -/
theorem ErrorsHave.mapM {f : α → Except ε β} {as : List α} (h : ∀ a ∈ as, ErrorsHave P (f a)) :
    ErrorsHave P (as.mapM f) := by
  intro e he
  obtain ⟨before, a, after, rfl, -, ha⟩ := mapM_eq_error_iff.mp he
  exact h a (by simp) e ha

end ErrorsHave

/-! ## Replacing errors and values -/

variable {γ δ : Type}

/-- An outcome with its error and its value replaced. -/
def mapBoth (onError : ε → ε') (onValue : α → β) : Except ε α → Except ε' β
  | .error e => .error (onError e)
  | .ok a => .ok (onValue a)

@[simp]
theorem mapBoth_ok (onError : ε → ε') (onValue : α → β) (a : α) :
    mapBoth onError onValue (.ok a) = .ok (onValue a) := rfl

@[simp]
theorem mapBoth_error (onError : ε → ε') (onValue : α → β) (e : ε) :
    mapBoth onError onValue (.error e) = .error (onError e) := rfl

/-- Replacing the errors of two steps in a row is replacing those of both together. -/
theorem mapError_bind {onError : ε → ε'} (x : Except ε α) (f : α → Except ε β) :
    (x.mapError onError >>= fun a => (f a).mapError onError) = (x >>= f).mapError onError := by
  cases x <;> rfl

/-- Replacing before a step is replacing after it, if the step allows for it. -/
theorem mapBoth_bind {onError : ε → ε'} {onValue : α → β} {onResult : γ → δ}
    {f : α → Except ε γ} {f' : β → Except ε' δ} (x : Except ε α)
    (h : ∀ a, f' (onValue a) = mapBoth onError onResult (f a)) :
    mapBoth onError onValue x >>= f' = mapBoth onError onResult (x >>= f) := by
  cases x with
  | error e => rfl
  | ok a => exact h a

/-- If the step for each entry allows for replacing, so do all of them together. -/
theorem mapM_mapBoth {onError : ε → ε'} {onEntry : α → β} {onResult : γ → δ}
    {f : α → Except ε γ} {f' : β → Except ε' δ} (as : List α)
    (h : ∀ a ∈ as, f' (onEntry a) = mapBoth onError onResult (f a)) :
    (as.map onEntry).mapM f' = mapBoth onError (List.map onResult) (as.mapM f) := by
  induction as with
  | nil => rfl
  | cons a as ih =>
    rw [List.map_cons, List.mapM_cons, List.mapM_cons, h a List.mem_cons_self,
      ih fun b hb => h b (List.mem_cons_of_mem _ hb)]
    refine mapBoth_bind _ fun c => mapBoth_bind _ fun cs => rfl

/-! ## Outcomes that agree -/

/-- Two outcomes are both errors or both values, and related as such. -/
inductive Agree (failed : ε → ε' → Prop) (done : α → β → Prop) : Except ε α → Except ε' β → Prop
  | error {e : ε} {e' : ε'} : failed e e' → Agree failed done (.error e) (.error e')
  | ok {a : α} {b : β} : done a b → Agree failed done (.ok a) (.ok b)

/-- An outcome agrees with the one it was made from. -/
theorem agree_mapBoth {onError : ε → ε'} {onValue : α → β} {failed : ε' → ε → Prop}
    {done : β → α → Prop} {x : Except ε α} (herror : ∀ e, x = .error e → failed (onError e) e)
    (hok : ∀ a, x = .ok a → done (onValue a) a) :
    Agree failed done (mapBoth onError onValue x) x := by
  cases x with
  | error e => exact .error (herror e rfl)
  | ok a => exact .ok (hok a rfl)

/-- An outcome agrees with itself if errors and values are related to themselves. -/
theorem agree_self {failed : ε → ε → Prop} {done : α → α → Prop} (herror : ∀ e, failed e e)
    (hok : ∀ a, done a a) (x : Except ε α) : Agree failed done x x := by
  cases x with
  | error e => exact .error (herror e)
  | ok a => exact .ok (hok a)

/-- Two steps in a row agree with two others if the first steps do, and the second ones do on values
that are related. -/
theorem Agree.bind {failed : ε → ε' → Prop} {done : α → β → Prop} {result : γ → δ → Prop}
    {x : Except ε α} {y : Except ε' β} {f : α → Except ε γ} {g : β → Except ε' δ}
    (h : Agree failed done x y) (hstep : ∀ a b, done a b → Agree failed result (f a) (g b)) :
    Agree failed result (x >>= f) (y >>= g) := by
  cases h with
  | error he => exact .error he
  | ok hab => exact hstep _ _ hab

/-- Outcomes agree if they do once their errors and values are replaced. -/
theorem agree_of_mapBoth {onError : ε → ε'} {onValue : α → β} {failed : ε' → ε' → Prop}
    {done : β → β → Prop} {x y : Except ε α}
    (h : Agree failed done (mapBoth onError onValue x) (mapBoth onError onValue y)) :
    Agree (fun e e' => failed (onError e) (onError e')) (fun a b => done (onValue a) (onValue b))
      x y := by
  cases x with
  | error e =>
    cases y with
    | error e' =>
      cases h with
      | error he => exact .error he
    | ok b => cases h
  | ok a =>
    cases y with
    | error e' => cases h
    | ok b =>
      cases h with
      | ok hab => exact .ok hab

/-- What is related by one relation is related by a weaker one. -/
theorem Agree.imp {failed failed' : ε → ε' → Prop} {done done' : α → β → Prop} {x : Except ε α}
    {y : Except ε' β} (h : Agree failed done x y) (herror : ∀ e e', failed e e' → failed' e e')
    (hok : ∀ a b, x = .ok a → y = .ok b → done a b → done' a b) : Agree failed' done' x y := by
  cases h with
  | error he => exact .error (herror _ _ he)
  | ok hab => exact .ok (hok _ _ rfl rfl hab)

end SyntaxBridge.Outcome
