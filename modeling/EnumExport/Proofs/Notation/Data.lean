import EnumExport.Json.Basic
import EnumExport.Proofs.Notation.Json

/-!
# Plain data

Plain data is what JSON can say without fractions: null, truth values, whole numbers, texts, and
lists and maps of them, the keys being texts. Plain data has a JSON form, and that form stands for
the same data: `ofValue_of_isPlain`. So what is written for plain data is read back as it was.
-/

namespace EnumExport

namespace Value

mutual

/-- Whether a value is plain data. -/
def isPlain : Value → Bool
  | .null | .bool _ | .int _ | .text _ => true
  | .list xs => arePlain xs
  | .map ps => pairsPlain ps
  | _ => false

/-- Whether several values are plain data. -/
def arePlain : List Value → Bool
  | [] => true
  | x :: xs => isPlain x && arePlain xs

/-- Whether pairs have texts for keys and plain data for values. -/
def pairsPlain : List (Value × Value) → Bool
  | [] => true
  | (.text _, v) :: ps => isPlain v && pairsPlain ps
  | _ => false

end

end Value

namespace Notation

open Json Value

mutual

/-- Plain data has a JSON form, which stands for the same data. -/
theorem ofValue_of_isPlain : ∀ v : Value, v.isPlain = true →
    ∃ j, Json.ofValue v = .ok j ∧ j.isWhole = true ∧ j.toValue = v
  | .null, _ => ⟨.null, rfl, rfl, rfl⟩
  | .bool b, _ => ⟨.bool b, rfl, rfl, rfl⟩
  | .int i, _ => ⟨.int i, rfl, rfl, rfl⟩
  | .text s, _ => ⟨.text s, rfl, rfl, rfl⟩
  | .list xs, h => by
    obtain ⟨js, hof, hwhole, hback⟩ := ofList_of_arePlain xs h
    exact ⟨.array js, by rw [Json.ofValue, hof]; rfl, hwhole, congrArg Value.list hback⟩
  | .map ps, h => by
    obtain ⟨fields, hof, hwhole, hback⟩ := ofPairs_of_pairsPlain ps h
    exact ⟨.object fields, by rw [Json.ofValue, hof]; rfl, hwhole, congrArg Value.map hback⟩

theorem ofList_of_arePlain : ∀ xs : List Value, arePlain xs = true →
    ∃ js, Json.ofList xs = .ok js ∧ areWhole js = true ∧ toValues js = xs
  | [], _ => ⟨[], rfl, rfl, rfl⟩
  | x :: xs, h => by
    obtain ⟨hx, hxs⟩ : x.isPlain = true ∧ arePlain xs = true := by simpa [arePlain] using h
    obtain ⟨j, hj, hjwhole, hjback⟩ := ofValue_of_isPlain x hx
    obtain ⟨js, hjs, hjswhole, hjsback⟩ := ofList_of_arePlain xs hxs
    refine ⟨j :: js, ?_, ?_, ?_⟩
    · rw [Json.ofList, hj, hjs]
      rfl
    · rw [areWhole, hjwhole, hjswhole]
      rfl
    · rw [toValues, hjback, hjsback]

theorem ofPairs_of_pairsPlain : ∀ ps : List (Value × Value), pairsPlain ps = true →
    ∃ fields, Json.ofPairs ps = .ok fields ∧ fieldsWhole fields = true ∧ toPairs fields = ps
  | [], _ => ⟨[], rfl, rfl, rfl⟩
  | (.text k, v) :: ps, h => by
    obtain ⟨hv, hps⟩ : v.isPlain = true ∧ pairsPlain ps = true := by simpa [pairsPlain] using h
    obtain ⟨j, hj, hjwhole, hjback⟩ := ofValue_of_isPlain v hv
    obtain ⟨fields, hof, hwhole, hback⟩ := ofPairs_of_pairsPlain ps hps
    refine ⟨(k, j) :: fields, ?_, ?_, ?_⟩
    · rw [Json.ofPairs, hj, hof]
      rfl
    · rw [fieldsWhole, hjwhole, hwhole]
      rfl
    · rw [toPairs, hjback, hback]

end

end Notation

end EnumExport
