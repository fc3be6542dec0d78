import RackElevation.Proofs.Outcome
import RackElevation.Service

/-
  Requests for a drawing

  A request posts to a path, which names the dialect or leaves it to the
  settings, and carries a source in its body or in a field of its form. Both are
  said here without the steps that find them out.

  What is proved:
    1. `answer_render`, `answer_renderAs` — a request that posts to the path of a
       drawing is answered by that drawing.
    2. `carries_iff` — a body that can be read carries exactly one source.
-/

namespace RackElevation

open Text Outcome

/-- A request posts to the path with these names, slashes before the first name aside. -/
def Request.PostsTo (r : Request) (names : List (List Char)) : Prop :=
  r.method.toUpper = "POST" ∧ ∃ target, Uri.splitWhole [] r.target = .ok target ∧
    fields '/' ((Service.path target).dropWhile (· == '/')) = names

/-- What a request carries as its source: the field of its form unless that is missing or empty, or
else its body, of which a form leaves nothing. -/
inductive Request.Carries (r : Request) : String → Prop
  | field {text : List Char} :
    r.content = .form (some text) → text ≠ [] → r.Carries (String.ofList text)
  | noField : r.content = .form none → r.Carries ""
  | emptyField : r.content = .form (some []) → r.Carries ""
  | body : r.content = .plain → r.Carries (String.ofList (Utf8.decodeLossy r.body))

theorem Request.carries_iff {r : Request} {source : String} (h : r.content ≠ .tooLarge) :
    r.Carries source ↔ r.source = source := by
  unfold Request.source
  constructor
  · intro hcarries
    cases hcarries with
    | field hcontent => rw [hcontent]; rfl
    | noField hcontent => rw [hcontent]; rfl
    | emptyField hcontent => rw [hcontent]; rfl
    | body hcontent => rw [hcontent]
  · rintro rfl
    cases hcontent : r.content with
    | plain => exact .body hcontent
    | tooLarge => exact absurd hcontent h
    | form field =>
      cases field with
      | none => exact .noField hcontent
      | some text =>
        by_cases htext : text = []
        · subst htext
          exact .emptyField hcontent
        · exact .field hcontent htext

/-! ## Routes -/

namespace Route

theorem target_found {method : String} {path : List Char} {route : Route}
    (hroute : ofSegments? (fields '/' (path.dropWhile (· == '/'))) = some route)
    (hindex : route ≠ .index) (hmethod : route.methods.contains method = true) :
    target method path = .found route := by
  have hpath : path.isEmpty = false := by
    rw [List.isEmpty_eq_false_iff]
    rintro rfl
    cases hroute
    exact hindex rfl
  have hfound : ofPath? ('/' :: path.dropWhile (· == '/')) = some route := hroute
  rw [target, hpath, if_neg Bool.false_ne_true]
  simp only [hfound, hmethod, if_true]

end Route

namespace Service

variable {s : Settings} {r : Request}

theorem answer_of_postsTo {names : List (List Char)} {route : Route} (h : r.PostsTo names)
    (hroute : Route.ofSegments? names = some route) (hindex : route ≠ .index)
    (hmethod : route.methods.contains "POST" = true) : answer s r = serve s r "POST" route := by
  obtain ⟨hpost, target, htarget, rfl⟩ := h
  have hfound : Route.target "POST" (path target) = .found route :=
    Route.target_found hroute hindex hmethod
  unfold answer
  rw [htarget, hpost]
  simp only [Except.mapError, bind, Except.bind, hfound]
  cases serve s r "POST" route <;> rfl

theorem serve_post_renderAs {name : String} :
    serve s r "POST" (.renderAs name.toList) = (render s name r).mapError Failure.conversion := by
  show (render s (String.ofList name.toList) r).mapError Failure.conversion = _
  rw [String.ofList_toList]

/-- A request for a drawing in the default dialect. -/
theorem answer_render (h : r.PostsTo [Route.renderName]) :
    answer s r = (render s s.dialect r).mapError Failure.conversion :=
  answer_of_postsTo h Route.ofSegments?_render (by decide) (by decide)

/-- A request for a drawing in a dialect that its path names. -/
theorem answer_renderAs {name : String} (h : r.PostsTo [Route.renderName, name.toList])
    (hname : name ≠ "") : answer s r = (render s name r).mapError Failure.conversion := by
  have hlist : name.toList ≠ [] := fun h => hname (String.toList_eq_nil_iff.1 h)
  rw [answer_of_postsTo h (Route.ofSegments?_dialect hlist) (by simp) rfl]
  exact serve_post_renderAs

end Service

end RackElevation
