import KeyBound.Client.Api
import KeyBound.Proofs.Json.Extent
import KeyBound.Proofs.Token.Response

/-!
# Bodies that are decoded

How much of a body counts. A success is decoded from the value at the head of its body, and what
follows the value is not looked at; a refusal has to be one document as a whole.
-/

set_option autoImplicit false

namespace KeyBound

namespace TokenResponse

open Json

theorem Grant.supported : Supported Grant.decoder := by
  refine .record _ ?_
  simp only [Grant.fields, List.forall_mem_cons, List.not_mem_nil, false_imp_iff, implies_true,
    and_true]
  exact ⟨.map _ .text, .map _ (.nullable (.integer _ _)), .map _ .text, .map _ (.nullable .text),
    .map _ (.nullable .text)⟩

theorem isBlankBody_of_sound {body : Bytes} (sound : (Json.read body).1.defect? = none) :
    isBlankBody body = false := by
  refine Bool.eq_false_iff.mpr fun blank => ?_
  rcases read_of_blank (List.all_eq_true.mp blank) with nothing | nothing <;>
    rw [nothing] at sound <;> cases sound

theorem token_of_body (explain : Bytes → Json.Report) {response : Response}
    (success : response.isSuccess = true) (something : isBlankBody response.body = false)
    (issuedAt : Instant) :
    token explain response issuedAt =
      match decodeHead Grant.decoder response.body with
      | .error failure =>
        .error (.malformed failure (explain (headText response.body)) response.status)
      | .ok grant => grant.token issuedAt := by
  simp only [token, success, something, Bool.not_true, Bool.false_eq_true, ↓reduceIte]
  rfl

end TokenResponse

namespace Response

def followedBy (response : Response) (more : Bytes) : Response :=
  { response with body := response.body ++ more }

end Response

namespace Api

open Json TokenResponse

variable {response : Response} {doc : Doc} {more : Bytes}

/-- A body that is one document, and more behind it, are read as the same document from the same
text. -/
theorem read_followedBy (whole : WholeText response.body doc) (ends : Ends doc more) :
    ∃ taken space, response.body = taken ++ space ∧ Blank space ∧
      read response.body = (doc, some space) ∧
      read (response.followedBy more).body = (doc, some (space ++ more)) := by
  obtain ⟨space, head, blank⟩ := whole.exists_head
  obtain ⟨taken, split⟩ := head.exists_taken
  have after : Ends doc (space ++ more) := by
    intro literal number
    cases space with
    | nil => exact ends literal number
    | cons b space => exact fun c first => delimits_blank blank c first
  exact ⟨taken, space, split, blank, head.read ((delimits_blank blank).ends doc),
    (head.append more).read after⟩

/-- What stands behind a document has no part in the text that is read of it. -/
theorem headText_followedBy (whole : WholeText response.body doc) (ends : Ends doc more) :
    headText (response.followedBy more).body = headText response.body := by
  obtain ⟨taken, space, split, -, here, longer⟩ := read_followedBy whole ends
  simp only [headText, here, longer]
  simp [Response.followedBy, split]

theorem decoded_followedBy (explain : Bytes → Json.Report) (whole : WholeText response.body doc)
    (ends : Ends doc more) {α : Type} (decoder : Decoder α) :
    decoded explain decoder (response.followedBy more) = decoded explain decoder response := by
  obtain ⟨-, space, -, -, here, longer⟩ := read_followedBy whole ends
  simp only [decoded, Response.decode, decodeHead, here, longer, headText_followedBy whole ends]

theorem token_followedBy (explain : Bytes → Json.Report) (whole : WholeText response.body doc)
    (ends : Ends doc more) (success : response.isSuccess = true) (issuedAt : Instant) :
    token explain (response.followedBy more) issuedAt = token explain response issuedAt := by
  obtain ⟨-, space, -, -, here, longer⟩ := read_followedBy whole ends
  have something : isBlankBody response.body = false :=
    isBlankBody_of_sound (by rw [here]; exact whole.sound)
  have somethingLonger : isBlankBody (response.followedBy more).body = false :=
    isBlankBody_of_sound (by rw [longer]; exact whole.sound)
  have successLonger : (response.followedBy more).isSuccess = true := success
  rw [token_of_body explain success something, token_of_body explain successLonger somethingLonger,
    headText_followedBy whole ends, decodeHead, decodeHead, here, longer]
  rfl

theorem refusal_followedBy (whole : WholeText response.body doc) (ends : Ends doc more)
    (solid : ¬ Blank more) : refusal (response.followedBy more) = .empty response.status := by
  obtain ⟨-, space, -, blank, -, longer⟩ := read_followedBy whole ends
  have left : skipSpace (space ++ more) ≠ [] := by
    rw [skipSpace_append blank]
    exact skipSpace_eq_nil_iff.not.mpr solid
  have refused : ∃ failure, decodeWhole Refusal.decoder (response.followedBy more).body =
      .error failure := by
    cases decoded : Refusal.decoder depthLimit doc with
    | error failure => exact ⟨failure, by simp [decodeWhole, longer, decoded, bind, Except.bind]⟩
    | ok refusal =>
        exact ⟨.here .malformed,
          by simp [decodeWhole, longer, decoded, left, bind, Except.bind]⟩
  obtain ⟨failure, same⟩ := refused
  rw [refusal, same]
  rfl

/-- What is decoded from a body is the value of a document at its head, which is the whole body only
if nothing but white space follows; so is the grant of a token. Whatever follows a document goes
unnoticed, unless it continues a number: the body is decoded as the document alone would be, and a
success grants the same token. Of a refusal that is followed by anything nothing is left. -/
theorem decoded_extent (explain : Bytes → Json.Report) (response : Response) :
    (∀ {α : Type} (decoder : Decoder α) (a : α), Supported decoder →
      decoded explain decoder response = .ok a →
      ∃ doc after, HeadText response.body doc after ∧ decoder depthLimit doc = .ok a ∧
        ((∃ whole, WholeText response.body whole) ↔ Blank after)) ∧
    (∀ issuedAt token, TokenResponse.token explain response issuedAt = .ok token →
      ∃ doc after grant, HeadText response.body doc after ∧
        Grant.decoder depthLimit doc = .ok grant ∧ grant.token issuedAt = .ok token ∧
        ((∃ whole, WholeText response.body whole) ↔ Blank after)) ∧
    ∀ doc more, WholeText response.body doc → Ends doc more →
      (∀ {α : Type} (decoder : Decoder α),
        decoded explain decoder (response.followedBy more) = decoded explain decoder response) ∧
      ∀ issuedAt,
        (response.isSuccess = true →
          token explain (response.followedBy more) issuedAt = token explain response issuedAt) ∧
        (response.isSuccess = false → ¬ Blank more →
          token explain (response.followedBy more) issuedAt = .error (.empty response.status)) := by
  refine ⟨?decoded, ?granted, ?followed⟩
  case decoded =>
    intro α decoder a supported accepted
    unfold decoded at accepted
    split at accepted
    · rename_i value found
      cases accepted
      exact supported.exists_head found
    · cases accepted
  case granted =>
    intro issuedAt token granted
    obtain ⟨-, seconds, grants⟩ := grants_of_token granted
    obtain ⟨doc, after, head, decoded, whole⟩ := Grant.supported.exists_head grants.body
    refine ⟨doc, after, _, head, decoded, ?_, whole⟩
    rw [token_of_body explain grants.success (isBlankBody_of_decode grants.body),
      show decodeHead _ _ = _ from grants.body] at granted
    exact granted
  case followed =>
    intro doc more whole ends
    refine ⟨fun decoder => decoded_followedBy explain whole ends decoder, fun issuedAt => ⟨?_, ?_⟩⟩
    · exact fun success => token_followedBy explain whole ends success issuedAt
    · intro failed solid
      have refused : token explain (response.followedBy more) issuedAt =
          .error (refusal (response.followedBy more)) :=
        if_pos (by rw [show (response.followedBy more).isSuccess = false from failed]; rfl)
      rw [refused, refusal_followedBy whole ends solid]

/-! ## Garbage behind an object -/

private def single : Response := ⟨200, [], utf8 "\x7b\"a\":1\x7d"⟩

private def garbage : Bytes := utf8 " garbage"

private def numbers : Decoder (List (String × Int)) := decodeTable decodeInt64

private theorem single_text : WholeText single.body
    (.object (.member (textPieces "a") (.number (integerLiteral 1)) .closed)) := by
  have same : single.body = utf8 (Value.object [("a", .ofInt 1)]).toText := by decide +kernel
  rw [same]
  exact (MembersPrint.cons (prints_integer 1) .nil).prints.wholeText

/-- The object is decoded, although the body is no document. -/
theorem decoded_extent_garbage :
    decoded (fun _ => .silent) numbers (single.followedBy garbage) = .ok [("a", 1)] ∧
      ¬ ∃ doc, WholeText (single.followedBy garbage).body doc := by
  obtain ⟨-, -, followed⟩ := decoded_extent (fun _ => .silent) single
  have same := (followed _ garbage single_text (by rintro _ ⟨⟩)).1 numbers
  refine ⟨same.trans (by decide +kernel), ?_⟩
  rintro ⟨doc, written⟩
  have whole : decodeWhole numbers _ = decodeHead numbers _ :=
    (decodeWhole_of_text written numbers).trans (decodeHead_of_text written numbers).symm
  revert whole
  decide +kernel

end Api

end KeyBound
