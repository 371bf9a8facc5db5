import Mathlib.Data.List.Infix
import ServiceClient.Markup.Plain
import ServiceClient.Proofs.Outcome

/-!
# Decoding character references

Decoding can only fail at a decimal reference with more digits than a number may have, so it
succeeds when every decimal reference of the text fits.
-/

namespace ServiceClient.Markup.Entity

/-- The number of digits of the decimal reference that some characters begin with. -/
def decimalDigits : List Char → Nat
  | '&' :: '#' :: rest => (rest.takeWhile Text.isDigit).length
  | _ => 0

/-- Every decimal reference in a text has no more digits than a number may have. -/
def ReferencesFit (cs : List Char) : Prop := ∀ s ∈ cs.tails, decimalDigits s ≤ Text.digitLimit

instance (cs : List Char) : Decidable (ReferencesFit cs) := List.decidableBAll _ _

theorem ReferencesFit.tail {c : Char} {cs : List Char} (h : ReferencesFit (c :: cs)) :
    ReferencesFit cs := fun s hs ↦ h s (by simp [List.tails, hs])

/-- A reference that fits stands for something. -/
theorem exists_value {cs : List Char} (h : decimalDigits ('&' :: cs) ≤ Text.digitLimit) :
    ∀ r ∈ reference? cs, ∃ value, r.value = .ok value := by
  intro r hr
  rw [Option.mem_def] at hr
  unfold reference? at hr
  split at hr
  · next rest =>
    rw [decimalDigits] at h
    dsimp only at hr
    split at hr
    · rw [if_neg (by omega)] at hr
      exact ⟨_, (congrArg Reference.value (Option.some.inj hr)).symm⟩
    · split at hr
      · split at hr
        · cases hr
        · exact ⟨_, (congrArg Reference.value (Option.some.inj hr)).symm⟩
      · cases hr
  · dsimp only at hr
    split at hr
    · cases hr
    · exact ⟨_, (congrArg Reference.value (Option.some.inj hr)).symm⟩

/-- Text whose references fit is decoded. -/
theorem exists_decodeFrom {cs : List Char} (h : ReferencesFit cs) (skip : Nat) :
    ∃ out, decodeFrom skip cs = .ok out := by
  induction cs generalizing skip with
  | nil => exact ⟨[], by simp [decodeFrom]⟩
  | cons c rest ih =>
    cases skip with
    | succ skip => exact ih h.tail skip
    | zero =>
      cases hr : (if c = '&' then reference? rest else none) with
      | none =>
        obtain ⟨out, hout⟩ := ih h.tail 0
        exact ⟨c :: out, by rw [decodeFrom, hr, hout]; rfl⟩
      | some r =>
        obtain ⟨rfl, hr'⟩ : c = '&' ∧ reference? rest = some r := by
          split at hr
          · next hc => exact ⟨hc, hr⟩
          · cases hr
        obtain ⟨value, hvalue⟩ := exists_value (h _ (by simp [List.tails])) r hr'
        obtain ⟨out, hout⟩ := ih h.tail r.length
        refine ⟨value ++ out, ?_⟩
        rw [decodeFrom, hr]
        simp only [hvalue, hout, ok_bind]
        rfl

/-- Text whose references fit is decoded. -/
theorem exists_decode {cs : List Char} (h : ReferencesFit cs) : ∃ out, decode cs = .ok out :=
  exists_decodeFrom h 0

end ServiceClient.Markup.Entity
