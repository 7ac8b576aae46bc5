import GlideRust.Lib.Fallible

/-!
# Decoders that have to account for all of their input

A decoder is sound on an input when the input is a documented encoding of
whatever it returns. An audit of a decoding step says whether the input holds a
stray element, for which no result is documented, and whether it is refused. The
two decide soundness, and audits of parts combine to audits of pairs and lists.
-/

namespace GlideRust.Lib.Decoding

open Fallible

universe u

variable {ν : Type*} {α β : Type u} {ε : Type*}

/-- A step that does not succeed. -/
def Fails (x : Except ε α) : Prop := ∀ a, x ≠ .ok a

/-- Every result of the step is documented. -/
def Accounted (x : Except ε α) (Documented : α → Prop) : Prop :=
  ∀ out, x = .ok out → Documented out

structure Audit (x : Except ε α) (Documented : α → Prop) (Stray Refused : Prop) : Prop where
  documented : ∀ {out}, ¬Stray → x = .ok out → Documented out
  dropped : ∀ {out}, Stray → x = .ok out → ¬Documented out
  readable : (∃ out, x = .ok out) ↔ ¬Refused

namespace Audit

variable {x : Except ε α} {D : α → Prop} {S R : Prop}

/-- A step is sound where nothing is stray or where it fails anyway. -/
theorem accounted_iff (h : Audit x D S R) : Accounted x D ↔ ¬S ∨ R := by
  constructor
  · intro haccounted
    by_cases hstray : S
    · right
      by_contra hrefused
      obtain ⟨out, hout⟩ := h.readable.mpr hrefused
      exact h.dropped hstray hout (haccounted out hout)
    · exact .inl hstray
  · rintro (hstray | hrefused) out hout
    · exact h.documented hstray hout
    · exact absurd hrefused (h.readable.mp ⟨out, hout⟩)

/-- A conversion documents its own results. -/
theorem leaf (x : Except ε α) : Audit x (x = .ok ·) False (Fails x) where
  documented _ hout := hout
  dropped hstray _ _ := hstray
  readable := by simp [Fails]

theorem ok {a : α} (h : D a) : Audit (.ok a : Except ε α) D False False where
  documented := by
    rintro out - hout
    cases hout
    exact h
  dropped hstray _ _ := hstray
  readable := by simp

theorem error (err : ε) : Audit (.error err : Except ε α) D False True where
  documented := by
    rintro out - hout
    cases hout
  dropped hstray _ _ := hstray
  readable := by simp

/-- A decoder that succeeds where nothing is documented. -/
theorem stray (h : ∀ out, ¬D out) (hR : (∃ out, x = .ok out) ↔ ¬R) : Audit x D True R where
  documented hstray _ := absurd trivial hstray
  dropped {out} _ _ := h out
  readable := hR

/-- A pair is decoded by decoding both components, in whichever order. -/
theorem prod {y : Except ε β} {D' : β → Prop} {S' R' : Prop} (hx : Audit x D S R)
    (hy : Audit y D' S' R') {z : Except ε (α × β)}
    (hz : ∀ out, z = .ok out ↔ x = .ok out.1 ∧ y = .ok out.2) :
    Audit z (fun out => D out.1 ∧ D' out.2) (S ∨ S') (R ∨ R') where
  documented := by
    intro out hstray hout
    rw [not_or] at hstray
    obtain ⟨hfirst, hsecond⟩ := (hz out).mp hout
    exact ⟨hx.documented hstray.1 hfirst, hy.documented hstray.2 hsecond⟩
  dropped := by
    rintro out hstray hout ⟨hd, hd'⟩
    obtain ⟨hfirst, hsecond⟩ := (hz out).mp hout
    cases hstray with
    | inl hs => exact hx.dropped hs hfirst hd
    | inr hs => exact hy.dropped hs hsecond hd'
  readable := by
    rw [not_or, ← hx.readable, ← hy.readable]
    constructor
    · rintro ⟨out, hout⟩
      obtain ⟨hfirst, hsecond⟩ := (hz out).mp hout
      exact ⟨⟨out.1, hfirst⟩, out.2, hsecond⟩
    · rintro ⟨⟨a, ha⟩, b, hb⟩
      exact ⟨(a, b), (hz (a, b)).mpr ⟨ha, hb⟩⟩

section Lists

variable {decode : β → Except ε α} {Documented : β → α → Prop} {Stray Refused : β → Prop}
variable (h : ∀ b, Audit (decode b) (Documented b) (Stray b) (Refused b))

include h

theorem mapM (xs : List β) :
    Audit (xs.mapM decode) (List.Forall₂ Documented xs) (∃ b ∈ xs, Stray b)
      (∃ b ∈ xs, Refused b) where
  documented := by
    intro outs hstray hout
    rw [mapM_eq_ok_iff] at hout
    induction hout with
    | nil => exact .nil
    | @cons b _ _ _ hb _ ih =>
        simp only [List.mem_cons, exists_eq_or_imp, not_or] at hstray
        exact .cons ((h b).documented hstray.1 hb) (ih hstray.2)
  dropped := by
    intro outs hstray hout hdocumented
    rw [mapM_eq_ok_iff] at hout
    induction hout with
    | nil => simp at hstray
    | @cons b _ _ _ hb _ ih =>
        simp only [List.mem_cons, exists_eq_or_imp] at hstray
        rw [List.forall₂_cons] at hdocumented
        cases hstray with
        | inl hhead => exact (h b).dropped hhead hb hdocumented.1
        | inr htail => exact ih htail hdocumented.2
  readable := by
    rw [isOk_mapM_iff]
    simp only [(h _).readable, not_exists, not_and]

variable {view : ν → Option β} {shape : β → ν}

omit h in
/-- Decoding a list whose first item is viewed decodes that item first. -/
theorem filterMap_cons_eq_ok {item : ν} {items : List ν} {b : β} {outs : List α}
    (hitem : view item = some b)
    (hout : ((item :: items).filterMap view).mapM decode = .ok outs) :
    ∃ a as, decode b = .ok a ∧ (items.filterMap view).mapM decode = .ok as ∧ outs = a :: as := by
  simp only [List.filterMap_cons, hitem, List.mapM_cons, bind_eq_ok_iff] at hout
  obtain ⟨a, ha, as, has, hpure⟩ := hout
  cases hpure
  exact ⟨a, as, ha, has, rfl⟩

/-- A list of which only the items of one shape are decoded: every other item is
stray, and so is an item of the shape with a stray element inside. -/
theorem filterMap (hview : ∀ v b, view v = some b ↔ v = shape b) (items : List ν) :
    Audit ((items.filterMap view).mapM decode)
      (List.Forall₂ (fun item out => ∃ b, item = shape b ∧ Documented b out) items)
      (∃ item ∈ items, (∀ b, item ≠ shape b) ∨ ∃ b, item = shape b ∧ Stray b)
      (∃ item ∈ items, ∃ b, item = shape b ∧ Refused b) where
  documented := by
    intro outs hstray hout
    induction items generalizing outs with
    | nil =>
        cases hout
        exact .nil
    | cons item items ih =>
        simp only [List.mem_cons, exists_eq_or_imp, not_or, not_forall, not_not] at hstray
        obtain ⟨⟨⟨b, hb⟩, hsound⟩, htail⟩ := hstray
        obtain ⟨a, as, ha, has, rfl⟩ := filterMap_cons_eq_ok ((hview item b).mpr hb) hout
        refine .cons ⟨b, hb, (h b).documented ?_ ha⟩ (ih htail has)
        intro hs
        exact hsound ⟨b, hb, hs⟩
  dropped := by
    intro outs hstray hout hdocumented
    induction items generalizing outs with
    | nil => simp at hstray
    | cons item items ih =>
        rw [List.forall₂_cons_left_iff] at hdocumented
        obtain ⟨out, rest, ⟨b, hb, hdoc⟩, hdocs, rfl⟩ := hdocumented
        obtain ⟨a, as, ha, has, hsame⟩ := filterMap_cons_eq_ok ((hview item b).mpr hb) hout
        cases hsame
        simp only [List.mem_cons, exists_eq_or_imp] at hstray
        obtain (hshape | ⟨b', hb', hs⟩) | htail := hstray
        · exact hshape b hb
        · -- an item has its shape in one way only
          have hsame : b' = b := by
            have hview' := (hview item b').mpr hb'
            rw [(hview item b).mpr hb] at hview'
            exact (Option.some.inj hview').symm
          rw [hsame] at hs
          exact (h b).dropped hs ha hdoc
        · exact ih htail has hdocs
  readable := by
    rw [isOk_mapM_iff]
    simp only [(h _).readable, List.mem_filterMap, hview, not_exists, not_and]
    constructor
    · intro hall item hitem b hb
      exact hall b ⟨item, hitem, hb⟩
    · rintro hall b ⟨item, hitem, hb⟩
      exact hall item hitem b hb

end Lists

end Audit

end GlideRust.Lib.Decoding
