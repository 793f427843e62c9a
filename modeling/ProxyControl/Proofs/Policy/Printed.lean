import ProxyControl.PolicyView
import ProxyControl.Proofs.Json.Printed
import ProxyControl.Proofs.Policy.RoundTrip
import ProxyControl.Session

namespace ProxyControl.Autoscale

variable {a : Autoscale} {asJson : Bool} {onText : Text → Prop} {document : Json} {body : Utf8.Bytes}

theorem Holds.printable (holds : a.Holds onText) : ∀ n ∈ a.payload.integers, Json.Printable n := by
  have readable : Json.Readable false a.payload := holds.readable fun _ _ impossible => nomatch impossible
  exact readable.printable

/-- The integers of a policy that was read from a document are no longer than those of the document. -/
theorem printable_of_documentOf (read : documentOf body = .ok document) (accepted : validate document = .ok a) :
    ∀ n ∈ a.payload.integers, Json.Printable n := by
  unfold documentOf at read
  split at read
  · cases read
  · have parsed := mapError_eq_ok.mp read
    exact (holds_of_validate (Json.keeps_nothing.parse parsed trivial) accepted).printable

/-- A policy is shown in full, if its integers can be. -/
theorem rendered_eq_ok {shown : Text} :
    a.rendered asJson = .ok shown ↔ (∀ n ∈ a.payload.integers, Json.Printable n) ∧ a.render asJson = shown :=
  printing_eq_ok

theorem isUnicode_render_json (a : Autoscale) : (a.render true).IsUnicode :=
  (Json.isUnicode_renderIndented 0 a.payload.sortKeys).append (by decide)

theorem isUnicode_render_iff :
    (a.render asJson).IsUnicode ↔ (asJson = false → a.renderTable.IsUnicode) := by
  cases asJson with
  | true => exact ⟨fun _ impossible => (nomatch impossible), fun _ => a.isUnicode_render_json⟩
  | false => exact ⟨fun unicode _ => unicode, fun unicode => unicode rfl⟩

end ProxyControl.Autoscale
