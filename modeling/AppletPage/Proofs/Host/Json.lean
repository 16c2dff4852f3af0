import AppletPage.Host.Layout
import AppletPage.Proofs.Json.RoundTrip
import AppletPage.Proofs.Text.Utf8

/-! Files of JSON, read back as they were written. -/

namespace AppletPage.Layout

open Text

theorem unifyLineEnds_of_clean {text : List Char} (clean : '\r' ∉ text) :
    unifyLineEnds text = text := by
  induction text with
  | nil => rfl
  | cons c rest ih =>
      rw [List.mem_cons, not_or] at clean
      unfold unifyLineEnds
      split
      · next given => cases given; exact absurd rfl clean.1
      · next given => cases given; exact absurd rfl clean.1
      · next given => cases given; rw [ih clean.2]
      · next given => cases given

theorem readJson_written {given : Json} (style : Json.Style) (exact : Json.IsExact given)
    (deep : Json.depth given ≤ Json.depthLimit) :
    readJson (Utf8.encode (given.write style ++ "\n")) = .ok given := by
  have clean := Json.return_not_mem_written style exact (by decide : '\r' ∉ "\n".toList)
  have ending : ∀ c ∈ "\n".toList, Json.isSpace c = true := List.all_eq_true.mp (by decide)
  have read := Json.read_written style exact deep ending
  rw [readJson, Utf8.decodeChars_encode]
  dsimp only
  rw [unifyLineEnds_of_clean clean, String.ofList_toList, read]
  rfl

end AppletPage.Layout
