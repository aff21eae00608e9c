import Errand.OAuth.Token
import Errand.Proofs.OAuth.Scopes
import Errand.Proofs.Text.Base64
import Errand.Proofs.Text.Form
import Errand.Proofs.Text.Pieces

/-!
Nothing is lost on the way to a token. The body of a request is a form that gives the parameters of
the grant back, and what its header proves is a pair of the application and its secret, which the
first colon tells apart whatever the secret is (`span_pairText`, `tokenRequest_faithful`).
-/

set_option autoImplicit false

namespace Errand.OAuth

/-- The number of an application has no colon, so the first one ends it. -/
theorem Credentials.span_pairText (c : Credentials) :
    c.pairText.toList.span (· ≠ ':') = (c.clientId.text.toList, ':' :: c.secret.toList) := by
  have hcolon : ':' ∉ c.clientId.text.toList := notMem_toList_toString (by decide) _
  have hbefore : ∀ d ∈ c.clientId.text.toList, decide (d ≠ ':') = true := by
    intro d hd
    exact decide_eq_true fun h ↦ hcolon (h ▸ hd)
  have hcut : c.pairText.toList = c.clientId.text.toList ++ ':' :: c.secret.toList := by
    simp [pairText]
  rw [List.span_eq_takeWhile_dropWhile, hcut, List.takeWhile_append_of_pos hbefore,
    List.dropWhile_append_of_pos hbefore]
  simp

/-- A request for a token loses nothing: its body is a form that gives back the parameters of the
grant, its header proves the application and the secret. -/
theorem tokenRequest_faithful (c : Credentials) (g : Grant) :
    (∃ form, (tokenRequest c g).body = .form form ∧
      match g with
      | .exchange code redirectUri =>
        Form.decode form.toList = [("grant_type", "authorization_code"), ("code", code),
          ("redirect_uri", redirectUri.text)]
      | .refresh token =>
        Form.decode form.toList = [("grant_type", "refresh_token"), ("refresh_token", token)]
      | .alone scopes =>
        ∃ listed, Scope.readList listed = scopes ∧
          Form.decode form.toList = [("grant_type", "client_credentials"), ("scope", listed)]) ∧
      ∃ digits bytes proof, (tokenRequest c g).headers = [⟨"Authorization", "Basic " ++ digits⟩] ∧
        Base64.decode? digits.toList = some bytes ∧ Utf8.decode? bytes = some proof ∧
        proof.toList.span (· ≠ ':') =
          ((toString c.clientId.value.toNat).toList, ':' :: c.secret.toList) := by
  have hform : Form.decode (String.ofList (Form.encode g.pairs)).toList = g.pairs := by
    rw [String.toList_ofList, Form.decode_encode]
  refine ⟨⟨_, rfl, ?body⟩, _, Utf8.encode c.pairText, c.pairText, rfl, ?digits,
    Utf8.decode?_encode _, c.span_pairText⟩
  case body =>
    cases g with
    | exchange code redirectUri => exact hform
    | refresh token => exact hform
    | alone scopes => exact ⟨Scope.join scopes, Scope.readList_join scopes, hform⟩
  case digits => rw [String.toList_ofList, Base64.decode?_encode]

end Errand.OAuth
