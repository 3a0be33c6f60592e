import KeyBound.Client.Pipeline
import KeyBound.Proofs.Client.Frame
import KeyBound.Proofs.Token.Likeness
import Mathlib.Data.List.Forall2

/-!
# Two runs of one client

Two runs that get replies which are the same but for the secrets of the tokens in them. Requests,
sessions and the parts of a call are compared: from sessions that are the same but for secrets, the
same part leads to sessions that are the same but for secrets.
-/

set_option autoImplicit false

namespace KeyBound

/-! ## Requests -/

/-- Two header fields are the same, present tokens under the same scheme, or are proofs for tokens
with the same claims beside the hashes of the tokens. -/
inductive Headers.FieldAlike : String × HeaderValue → String × HeaderValue → Prop where
  | same (field : String × HeaderValue) : FieldAlike field field
  | authorization {scheme token other : String} :
      scheme ∈ HeaderValue.schemes → Text.IsVisible token → Text.IsVisible other →
      FieldAlike ("authorization", .presenting scheme token)
        ("authorization", .presenting scheme other)
  | proof (key : ProofKey) (claims : ProofClaims) (signature : Bytes) (token other : String) :
      FieldAlike
        ("dpop", .ofAscii (Proof.sign key
          { claims with tokenHash := some (tokenHash token) } signature))
        ("dpop", .ofAscii (Proof.sign key
          { claims with tokenHash := some (tokenHash other) } signature))

theorem Headers.FieldAlike.name_eq {first second : String × HeaderValue}
    (alike : FieldAlike first second) : first.1 = second.1 := by
  cases alike <;> rfl

theorem Headers.filter_alike {first second : Headers} (keep : String → Bool)
    (alike : List.Forall₂ FieldAlike first second) :
    List.Forall₂ FieldAlike (first.filter fun field => keep field.1)
      (second.filter fun field => keep field.1) :=
  List.rel_filter (fun _ _ same => by simp [same.name_eq]) alike

/-- Two requests are the same but for the tokens that they present. -/
structure Request.Alike (first second : Request) : Prop where
  method : first.method = second.method
  url : first.url = second.url
  body : first.body = second.body
  headers : List.Forall₂ Headers.FieldAlike first.headers second.headers

namespace Request

/-- What a request is for: one that presents no token asks for one. -/
def target (request : Request) : Target :=
  if request.headers.getAll "authorization" = [] then .token else .resource

variable {first second : Request}

theorem Alike.refl (request : Request) : request.Alike request :=
  ⟨rfl, rfl, rfl, List.forall₂_same.mpr fun field _ => .same field⟩

theorem Alike.withHeader (alike : first.Alike second) {name key : String}
    {value other : HeaderValue} (folded : Headers.fold name = key)
    (field : Headers.FieldAlike (key, value) (key, other)) :
    (first.withHeader name value).Alike (second.withHeader name other) where
  method := alike.method
  url := alike.url
  body := alike.body
  headers := by
    subst folded
    exact List.rel_append (Headers.filter_alike (· != Headers.fold name) alike.headers)
      (.cons field .nil)

theorem Alike.withSame (alike : first.Alike second) (name : String) (value : HeaderValue) :
    (first.withHeader name value).Alike (second.withHeader name value) :=
  alike.withHeader rfl (.same _)

theorem target_congr {request other : Request}
    (same : request.headers.getAll "authorization" = other.headers.getAll "authorization") :
    request.target = other.target := by
  rw [target, target, same]

theorem target_withHeader (request : Request) {name : String}
    (distinct : Headers.fold name ≠ Headers.fold "authorization") (value : HeaderValue) :
    (request.withHeader name value).target = request.target :=
  target_congr (Headers.getAll_insert_of_ne distinct request.headers value)

theorem target_withAuthorization (request : Request) (value : HeaderValue) :
    (request.withHeader "authorization" value).target = .resource := by
  have alone :
      (request.withHeader "authorization" value).headers.getAll "authorization" = [value] :=
    Headers.getAll_insert_self request.headers "authorization" value
  simp [target, alone]

theorem Alike.get? (alike : first.Alike second) (name : String) :
    first.headers.get? name = second.headers.get? name ∨
      ∃ value other, first.headers.get? name = some value ∧ second.headers.get? name = some other ∧
        Headers.FieldAlike (Headers.fold name, value) (Headers.fold name, other) := by
  have kept := Headers.filter_alike (· == Headers.fold name) alike.headers
  have named (headers : Headers) : ∀ field ∈ headers.filter (·.1 == Headers.fold name),
      field.1 = Headers.fold name := fun field member => by
    simpa using (List.mem_filter.mp member).2
  have firstNamed := named first.headers
  have secondNamed := named second.headers
  simp only [Headers.get?, Headers.getAll]
  generalize first.headers.filter (·.1 == Headers.fold name) = fields at kept firstNamed
  generalize second.headers.filter (·.1 == Headers.fold name) = others at kept secondNamed
  cases kept with
  | nil => exact .inl rfl
  | @cons field other fields others same _ =>
      obtain ⟨key, value⟩ := field
      obtain ⟨keyToo, valueToo⟩ := other
      obtain rfl : key = Headers.fold name := firstNamed _ List.mem_cons_self
      obtain rfl : keyToo = Headers.fold name := secondNamed _ List.mem_cons_self
      exact .inr ⟨value, valueToo, rfl, rfl, same⟩

end Request

namespace Handshake

variable {first second : Request}

theorem presented?_of_presenting {request : Request} {scheme token : String}
    (known : scheme ∈ HeaderValue.schemes) (visible : Text.IsVisible token)
    (present : request.headers.get? "authorization" = some (.presenting scheme token)) :
    presented? request = some token.toList := by
  have read := HeaderValue.chars?_presenting known visible
  simp only [presented?, Headers.chars?, present, Option.bind_eq_bind, Option.bind_some, read,
    Option.map_some]
  have cut : ∀ scheme ∈ HeaderValue.schemes, ∀ rest : List Char,
      ((scheme.toList ++ rest).dropWhile (· != ' ')).drop 1 = rest := by
    intro scheme known rest
    simp only [HeaderValue.schemes, List.mem_cons, List.not_mem_nil, or_false] at known
    rcases known with rfl | rfl <;> rfl
  rw [cut scheme known]

/-- Requests that are alike present the same, or tokens that are both visible. -/
theorem presented?_alike (alike : first.Alike second) :
    presented? first = presented? second ∨
      ∃ token other, Text.IsVisible token ∧ Text.IsVisible other ∧
        presented? first = some token.toList ∧ presented? second = some other.toList := by
  rcases alike.get? "authorization" with same | ⟨value, other, present, presentToo, field⟩
  · simp only [presented?, Headers.chars?, same, true_or]
  · have folded : Headers.fold "authorization" = "authorization" := by decide
    rw [folded] at field
    generalize named : ("authorization", value) = entry at field
    generalize namedToo : ("authorization", other) = entryToo at field
    cases field with
    | same field =>
        obtain ⟨_, rfl⟩ := Prod.mk.inj (named.trans namedToo.symm)
        simp only [presented?, Headers.chars?, present, presentToo, true_or]
    | @authorization scheme token tokenToo known visible visibleToo =>
        cases named
        cases namedToo
        exact .inr ⟨token, tokenToo, visible, visibleToo,
          presented?_of_presenting known visible present,
          presented?_of_presenting known visibleToo presentToo⟩
    | proof => exact absurd (congrArg Prod.fst named) (by simp)

/-- A request is prepared in the same way whatever the token that it presents. -/
theorem prepare_alike (alike : first.Alike second) (handshake : Handshake) (draw : Draw)
    (target : Target) (now : Instant) :
    (handshake.prepare draw target now first).1.Alike
        (handshake.prepare draw target now second).1 ∧
      (handshake.prepare draw target now first).2 =
        (handshake.prepare draw target now second).2 := by
  unfold prepare
  dsimp only
  split
  · exact ⟨alike, rfl⟩
  · rename_i key present
    refine ⟨?_, rfl⟩
    rw [alike.method, alike.url]
    rcases presented?_alike alike with same | ⟨token, other, visible, visibleToo, reads, readsToo⟩
    · simp only [claim, same]
      split
      · exact (alike.withSame _ _).withSame _ _
      · split <;> exact alike.withSame _ _
    · simp only [claim, reads, readsToo, String.ofList_toList]
      have scheme : "DPoP " ∈ HeaderValue.schemes := by decide
      have rewritten := alike.withHeader (show Headers.fold "authorization" = _ by decide)
        (.authorization scheme visible visibleToo)
      exact rewritten.withHeader (by decide) (.proof key _ draw.signature token other)

theorem prepare_target (handshake : Handshake) (draw : Draw) (target : Target) (now : Instant)
    (request : Request) :
    (handshake.prepare draw target now request).1.target = request.target := by
  unfold prepare
  dsimp only
  split
  · rfl
  · rw [Request.target_withHeader _ (by decide)]
    unfold claim
    split
    · rename_i token presented
      rw [Request.target_withAuthorization, Request.target, if_neg]
      intro none
      rw [presented?, Headers.chars?, Headers.get?, none] at presented
      cases presented
    · split <;> rfl

end Handshake

/-! ## Sessions -/

def Request.SentAlike (first second : Delay × Request) : Prop :=
  first.1 = second.1 ∧ first.2.Alike second.2

/-- Two sessions are the same but for the token that they keep and the tokens that their requests
present. -/
inductive Session.Alike : Session → Session → Prop where
  | mk {session : Session} {cached : Option AccessToken} {sent : List (Delay × Request)} :
      Option.Rel AccessToken.Alike session.cached cached →
      List.Forall₂ Request.SentAlike session.sent sent →
      Alike session { session with cached, sent }

def Environment.answering (env : Environment) (respond : List Request → Request → Reply) :
    Environment := { env with respond }

@[simp] theorem Environment.answering_explain {α : Type} (env : Environment)
    (respond : List Request → Request → Reply) (decoder : Json.Decoder α) :
    (env.answering respond).explain decoder = env.explain decoder :=
  rfl

namespace Session.Alike

variable {session twin : Session}

theorem events_eq (alike : session.Alike twin) : session.events = twin.events := by
  cases alike
  rfl

theorem handshake_eq (alike : session.Alike twin) : session.handshake = twin.handshake := by
  cases alike
  rfl

theorem elapsed_eq (alike : session.Alike twin) : session.elapsed = twin.elapsed := by
  cases alike
  rfl

theorem sent (alike : session.Alike twin) :
    List.Forall₂ Request.SentAlike session.sent twin.sent := by
  cases alike
  assumption

theorem cached (alike : session.Alike twin) :
    Option.Rel AccessToken.Alike session.cached twin.cached := by
  cases alike
  assumption

theorem isSome_cached_eq (alike : session.Alike twin) :
    session.cached.isSome = twin.cached.isSome := by
  have kept := alike.cached
  generalize session.cached = token at kept
  generalize twin.cached = granted at kept
  cases kept <;> rfl

theorem isCancelled_eq (alike : session.Alike twin) (env : Environment)
    (other : List Request → Request → Reply) :
    session.isCancelled env = twin.isCancelled (env.answering other) := by
  cases alike
  rfl

end Session.Alike

structure Reply.Alike (target : Target) (first second : Reply) : Prop where
  delay : first.delay = second.delay
  outcome : Agree Eq (Response.Alike target) first.outcome second.outcome

/-- Two servers have given replies that are alike to the requests of two sessions, in order. -/
def Session.RepliesAlike (env : Environment) (other : List Request → Request → Reply)
    (first second : Session) : Prop :=
  ∀ position entry reply answer, first.sent[position]? = some entry →
    first.reply? env position = some reply →
    second.reply? (env.answering other) position = some answer →
    reply.Alike entry.2.target answer

theorem Session.RepliesAlike.of_grows {env : Environment}
    {other : List Request → Request → Reply} {first second later laterToo : Session}
    (alike : RepliesAlike env other later laterToo) (grows : first.sent <+: later.sent)
    (growsToo : second.sent <+: laterToo.sent) : RepliesAlike env other first second := by
  intro position entry reply answer placed replied answered
  have inside := Session.lt_of_reply? replied
  have insideToo := Session.lt_of_reply? answered
  refine alike position entry reply answer ?_ ?_ ?_
  · obtain ⟨rest, whole⟩ := grows
    rw [← whole, List.getElem?_append_left inside, placed]
  · rw [Session.reply?_of_grows grows inside, replied]
  · rw [Session.reply?_of_grows growsToo insideToo, answered]

/-! ## Work -/

/-- A part of the work of a client: what it comes to, and the session after it. -/
abbrev Work (β : Type) := Session → β × Session

namespace Work

variable {β γ : Type}

def done (value : β) : Work β := fun session => (value, session)

def andThen (first : Work β) (rest : β → Work γ) : Work γ :=
  fun session => rest (first session).1 (first session).2

/-- One part after another, which ends with the first error. -/
def orError (first : Work (Except Error β)) (rest : β → Work (Except Error γ)) :
    Work (Except Error γ) :=
  first.andThen fun
    | .error error => done (.error error)
    | .ok value => rest value

def reading (look : Session → β) : Work β := fun session => (look session, session)

def changing (change : Session → Session) : Work Unit := fun session => ((), change session)

@[simp] theorem andThen_apply (first : Work β) (rest : β → Work γ) (session : Session) :
    first.andThen rest session = rest (first session).1 (first session).2 := rfl

@[simp] theorem reading_apply (look : Session → β) (session : Session) :
    reading look session = (look session, session) := rfl

@[simp] theorem changing_apply (change : Session → Session) (session : Session) :
    changing change session = ((), change session) := rfl

end Work

/-- The same work in two runs. It forgets no request that was sent. From sessions that are alike it
comes to results that are related and to sessions that are alike, if the servers have given replies
that are alike up to its end. -/
structure Coupled (env : Environment) (other : List Request → Request → Reply) {β : Type}
    (R : β → β → Prop) (first second : Work β) : Prop where
  grows : ∀ session, session.sent <+: (first session).2.sent
  growsToo : ∀ session, session.sent <+: (second session).2.sent
  alike : ∀ session twin, session.Alike twin →
    Session.RepliesAlike env other (first session).2 (second twin).2 →
    R (first session).1 (second twin).1 ∧ (first session).2.Alike (second twin).2

namespace Coupled

variable {env : Environment} {other : List Request → Request → Reply} {β γ : Type}
  {R : β → β → Prop} {S : γ → γ → Prop}

theorem done {value answer : β} (related : R value answer) :
    Coupled env other R (Work.done value) (Work.done answer) where
  grows session := List.prefix_refl session.sent
  growsToo session := List.prefix_refl session.sent
  alike _ _ alike _ := ⟨related, alike⟩

/-- A part after another one, neither of which forgets a request. -/
theorem followed {first second : Work β} {rest restToo : β → Work γ}
    (coupled : Coupled env other R first second)
    (grows : ∀ value session, session.sent <+: (rest value session).2.sent)
    (growsToo : ∀ value session, session.sent <+: (restToo value session).2.sent)
    (next : ∀ value answer, R value answer → Coupled env other S (rest value) (restToo answer)) :
    Coupled env other S (first.andThen rest) (second.andThen restToo) where
  grows session := (coupled.grows session).trans (grows _ _)
  growsToo session := (coupled.growsToo session).trans (growsToo _ _)
  alike session twin alike replies := by
    obtain ⟨related, between⟩ :=
      coupled.alike session twin alike (replies.of_grows (grows _ _) (growsToo _ _))
    exact (next _ _ related).alike _ _ between replies

theorem andThen {first second : Work β} {rest restToo : β → Work γ}
    (coupled : Coupled env other R first second) (refl : ∀ value, R value value)
    (next : ∀ value answer, R value answer → Coupled env other S (rest value) (restToo answer)) :
    Coupled env other S (first.andThen rest) (second.andThen restToo) :=
  coupled.followed (fun value => (next value value (refl value)).grows)
    (fun value => (next value value (refl value)).growsToo) next

theorem orError {E : Error → Error → Prop} {first second : Work (Except Error β)}
    {rest restToo : β → Work (Except Error γ)}
    (coupled : Coupled env other (Agree E R) first second) (errors : ∀ error, E error error)
    (values : ∀ value, R value value)
    (next : ∀ value answer, R value answer →
      Coupled env other (Agree E S) (rest value) (restToo answer)) :
    Coupled env other (Agree E S) (first.orError rest) (second.orError restToo) := by
  refine coupled.andThen (.refl errors values) fun result answer agree => ?_
  cases agree with
  | error related => exact .done (.error related)
  | ok related => exact next _ _ related

theorem mono {first second : Work β} {T : β → β → Prop} (coupled : Coupled env other R first second)
    (covers : ∀ value answer, R value answer → T value answer) :
    Coupled env other T first second where
  grows := coupled.grows
  growsToo := coupled.growsToo
  alike session twin alike replies :=
    (coupled.alike session twin alike replies).imp_left (covers _ _)

theorem cancelledAt {first second : Work β} {cancelAt : Option Delay}
    (coupled : Coupled { env with cancelAt } other R first second) :
    Coupled env other R first second where
  grows := coupled.grows
  growsToo := coupled.growsToo
  alike := coupled.alike

theorem of_unsent {first second : Work β}
    (unsent : ∀ session, (first session).2.sent = session.sent)
    (unsentToo : ∀ session, (second session).2.sent = session.sent)
    (same : ∀ session twin, session.Alike twin →
      R (first session).1 (second twin).1 ∧ (first session).2.Alike (second twin).2) :
    Coupled env other R first second where
  grows session := unsent session ▸ List.prefix_refl _
  growsToo session := unsentToo session ▸ List.prefix_refl _
  alike session twin alike _ := same session twin alike

theorem reading {look lookToo : Session → β}
    (same : ∀ session twin, session.Alike twin → R (look session) (lookToo twin)) :
    Coupled env other R (Work.reading look) (Work.reading lookToo) :=
  of_unsent (fun _ => rfl) (fun _ => rfl) fun session twin alike =>
    ⟨same session twin alike, alike⟩

theorem look (env : Environment) (other : List Request → Request → Reply) :
    Coupled env other Eq (Session.look env) (Session.look (env.answering other)) := by
  refine of_unsent (fun _ => rfl) (fun _ => rfl) ?_
  rintro _ _ ⟨cached, sent⟩
  exact ⟨rfl, .mk cached sent⟩

theorem draw (env : Environment) (other : List Request → Request → Reply) :
    Coupled env other Eq (Session.draw env) (Session.draw (env.answering other)) := by
  refine of_unsent (fun _ => rfl) (fun _ => rfl) ?_
  rintro _ _ ⟨cached, sent⟩
  exact ⟨rfl, .mk cached sent⟩

theorem tell (env : Environment) (other : List Request → Request → Reply) (events : List Event) :
    Coupled env other Eq (Work.changing (·.tell events)) (Work.changing (·.tell events)) := by
  refine of_unsent (fun _ => rfl) (fun _ => rfl) ?_
  rintro _ _ ⟨cached, sent⟩
  exact ⟨rfl, .mk cached sent⟩

theorem keep (env : Environment) (other : List Request → Request → Reply)
    {token granted : AccessToken} (alike : token.Alike granted) :
    Coupled env other Eq (Work.changing ({ · with cached := some token }))
      (Work.changing ({ · with cached := some granted })) := by
  refine of_unsent (fun _ => rfl) (fun _ => rfl) ?_
  rintro _ _ ⟨_, sent⟩
  exact ⟨rfl, .mk (.some alike) sent⟩

theorem invalidate (env : Environment) (other : List Request → Request → Reply) :
    Coupled env other Eq (Work.changing Session.invalidate) (Work.changing Session.invalidate) := by
  refine of_unsent (fun _ => rfl) (fun _ => rfl) ?_
  rintro _ _ ⟨_, sent⟩
  exact ⟨rfl, .mk .none sent⟩

theorem elapsed (env : Environment) (other : List Request → Request → Reply) :
    Coupled env other Eq (Work.reading (·.elapsed)) (Work.reading (·.elapsed)) :=
  reading fun _ _ alike => alike.elapsed_eq

theorem isCancelled (env : Environment) (other : List Request → Request → Reply) :
    Coupled env other Eq (Work.reading (·.isCancelled env))
      (Work.reading (·.isCancelled (env.answering other))) :=
  reading fun _ _ alike => alike.isCancelled_eq env other

theorem wait (env : Environment) (other : List Request → Request → Reply) (delay : Delay) :
    Coupled env other Eq (Session.wait env delay) (Session.wait (env.answering other) delay) := by
  refine of_unsent (Session.wait_sent env delay) (Session.wait_sent (env.answering other) delay) ?_
  rintro session _ ⟨cached, sent⟩
  simp only [Session.wait, Environment.answering, Session.deadline]
  cases env.cancelAt with
  | none => exact ⟨rfl, .mk cached sent⟩
  | some moment =>
      by_cases due : moment ≤ session.elapsed.plus (delay.atMost .longestTimer)
      · simp only [due, ↓reduceIte]
        exact ⟨trivial, .mk cached sent⟩
      · simp only [due, ↓reduceIte]
        exact ⟨trivial, .mk cached sent⟩

variable {request twin : Request}

/-- The replies to two requests that are alike decide what comes of them. -/
theorem exchange (env : Environment) (other : List Request → Request → Reply)
    (alike : request.Alike twin) :
    Coupled env other (Option.Rel (Agree Eq (Response.Alike request.target)))
      (Session.exchange env request) (Session.exchange (env.answering other) twin) where
  grows session := by simp [Session.exchange]
  growsToo session := by simp [Session.exchange]
  alike := by
    rintro session _ ⟨cached, sent⟩ replies
    rename_i kept before
    let twinSession : Session := { session with cached := kept, sent := before }
    let begun : Session := { session with sent := session.sent ++ [(session.elapsed, request)] }
    let twinBegun : Session := { twinSession with sent := before ++ [(session.elapsed, twin)] }
    let reply := env.respond (session.sent.map (·.2)) request
    let answer := other (before.map (·.2)) twin
    have grown : (begun.wait env reply.delay).2.sent =
        session.sent ++ [(session.elapsed, request)] := Session.wait_sent env _ _
    have grownToo : (twinBegun.wait (env.answering other) answer.delay).2.sent =
        before ++ [(session.elapsed, twin)] := Session.wait_sent _ _ _
    have answered : reply.Alike request.target answer := by
      have second := @Session.reply?_of_append (env.answering other) twinSession _ _ grownToo
      rw [show twinSession.sent.length = session.sent.length from sent.length_eq.symm] at second
      refine replies session.sent.length (session.elapsed, request) reply answer ?_
        (Session.reply?_of_append grown) second
      exact (congrArg (·[session.sent.length]?) grown).trans List.getElem?_concat_length
    have begins : begun.Alike twinBegun :=
      .mk cached (List.rel_append sent (.cons ⟨rfl, alike⟩ .nil))
    -- Both wait for their replies, and for the same time.
    have passes := (wait env other reply.delay).alike begun twinBegun begins
    rw [answered.delay] at passes
    change Session.RepliesAlike env other (begun.wait env reply.delay).2
      (twinBegun.wait (env.answering other) answer.delay).2 at replies
    rw [answered.delay] at replies
    obtain ⟨passed, after⟩ := passes replies
    change Option.Rel _ (if (begun.wait env reply.delay).1 then some reply.outcome else none)
      (if (twinBegun.wait (env.answering other) answer.delay).1 then some answer.outcome
        else none) ∧
      (begun.wait env reply.delay).2.Alike (twinBegun.wait (env.answering other) answer.delay).2
    rw [answered.delay, passed]
    refine ⟨?_, after⟩
    split
    · exact .some answered.outcome
    · exact .none

theorem prepare (env : Environment) (other : List Request → Request → Reply) (target : Target)
    (alike : request.Alike twin) :
    Coupled env other (fun prepared copy => prepared.Alike copy ∧ prepared.target = request.target)
      (Session.prepare env target request) (Session.prepare (env.answering other) target twin) := by
  refine of_unsent (fun _ => rfl) (fun _ => rfl) ?_
  rintro session _ ⟨cached, sent⟩
  have same := session.handshake.prepare_target (env.draw session.draws) target
    (env.clock session.looks session.elapsed) request
  obtain ⟨prepared, rest⟩ := session.handshake.prepare_alike alike (env.draw session.draws) target
    (env.clock session.looks session.elapsed)
  simp only [Session.prepare, Session.look, Session.draw, Environment.answering, rest]
  exact ⟨⟨prepared, same⟩, .mk cached sent⟩

/-- The handshake takes responses that are alike in the same way. -/
theorem observe (env : Environment) (other : List Request → Request → Reply)
    {response answer : Response} (alike : Response.Alike .token response answer) :
    Coupled env other (Agree Eq Eq) (Session.observe env response)
      (Session.observe (env.answering other) answer) := by
  refine of_unsent (Session.observe_sent env response)
    (Session.observe_sent (env.answering other) answer) ?_
  rintro session _ ⟨cached, sent⟩
  have taken : session.handshake.observe (env.draw session.draws).key
      (env.clock session.looks session.elapsed) response = session.handshake.observe
        (env.draw session.draws).key (env.clock session.looks session.elapsed) answer := by
    cases alike with
    | same => rfl
    | granting low high _ =>
        simp [Handshake.observe, Response.isSuccess, low, high]
  simp only [Session.observe, Session.look, Session.draw, Environment.answering, taken]
  split
  · exact ⟨.ok rfl, .mk cached sent⟩
  · exact ⟨.ok rfl, .mk cached sent⟩
  · exact ⟨.error rfl, .mk cached sent⟩
  · exact ⟨.error rfl, .mk cached sent⟩

end Coupled

/-! ## Calls -/

namespace Pipeline

open Work

variable {env : Environment} {other : List Request → Request → Reply} {settings : RetrySettings}
  {target : Target} {request twin : Request}

theorem tagged_alike (alike : request.Alike twin) (settings : RetrySettings) (attempt : Nat)
    (retryFor : Option HeaderValue) :
    (tagged settings attempt retryFor request).Alike (tagged settings attempt retryFor twin) := by
  unfold tagged
  split
  · cases retryFor with
    | none => exact alike.withSame _ _
    | some id => exact (alike.withSame _ _).withSame _ _
  · exact alike

theorem tagged_target (settings : RetrySettings) (attempt : Nat) (retryFor : Option HeaderValue)
    (request : Request) : (tagged settings attempt retryFor request).target = request.target :=
  Request.target_congr (tagged_getAll settings attempt retryFor request (by decide))

theorem attemptOnce_eq (env : Environment) (settings : RetrySettings) (target : Target)
    (request : Request) (attempt : Nat) (retryFor : Option HeaderValue) :
    attemptOnce env settings target request attempt retryFor =
      (reading (·.isCancelled env)).andThen fun
        | true => done none
        | false =>
          Work.andThen (Session.prepare env target (tagged settings attempt retryFor request))
            fun prepared => (changing (·.tell [.counted target.kind .attempt])).andThen fun _ =>
              Session.exchange env prepared := by
  funext session
  simp only [attemptOnce, andThen, reading]
  cases session.isCancelled env <;> rfl

theorem attemptOnce_coupled (env : Environment) (other : List Request → Request → Reply)
    (settings : RetrySettings) (target : Target) (alike : request.Alike twin) (attempt : Nat)
    (retryFor : Option HeaderValue) :
    Coupled env other (Option.Rel (Agree Eq (Response.Alike request.target)))
      (attemptOnce env settings target request attempt retryFor)
      (attemptOnce (env.answering other) settings target twin attempt retryFor) := by
  rw [attemptOnce_eq, attemptOnce_eq]
  refine (Coupled.isCancelled env other).andThen (fun _ => rfl) ?_
  rintro cancelled _ rfl
  cases cancelled with
  | true => exact .done .none
  | false =>
      have sends {prepared copy : Request} (same : prepared.Alike copy) :=
        (Coupled.tell env other [.counted target.kind .attempt]).andThen (fun _ => rfl)
          fun _ _ _ => Coupled.exchange env other same
      have tagged := tagged_alike alike settings attempt retryFor
      refine (Coupled.prepare env other target tagged).followed
        (fun prepared => (sends (.refl prepared)).grows)
        (fun prepared => (sends (.refl prepared)).growsToo) ?_
      rintro prepared copy ⟨same, kept⟩
      rw [tagged_target] at kept
      exact kept ▸ sends same

/-- What follows an attempt with an outcome: the end of the call, or a wait and more of it. -/
def settle (env : Environment) (settings : RetrySettings) (target : Target) (method : String)
    (began : Delay) (attempt : Nat) (outcome : Outcome) (more : Work (Except Error Response)) :
    Work (Except Error Response) :=
  (reading (·.isCancelled env)).andThen fun cancelled =>
    match delay? settings attempt method outcome cancelled with
    | none => done (result outcome)
    | some delay =>
      (changing (·.tell
        [.delayChosen attempt delay.millis (RetrySettings.isRateLimited outcome)])).andThen fun _ =>
          (reading (·.elapsed)).andThen fun elapsed =>
            match isOverBudget settings (elapsed.minus began) delay with
            | true => done (result outcome)
            | false =>
              (changing (·.tell
                [.retrying attempt delay.millis, .counted target.kind .retry])).andThen fun _ =>
                  Work.andThen (Session.wait env delay) fun
                    | false => done (.error .cancelled)
                    | true => more

theorem attempts_zero (env : Environment) (settings : RetrySettings) (target : Target)
    (request : Request) (began : Delay) (retryFor : Option HeaderValue) :
    attempts env settings target request began 0 retryFor =
      Work.andThen
        (attemptOnce env settings target request (settings.maxRetries + 1) retryFor) fun
        | none => done (.error .cancelled)
        | some outcome => done (result outcome) := by
  funext session
  rw [attempts, andThen_apply]
  cases attemptOnce env settings target request (settings.maxRetries + 1) retryFor session with
  | mk outcome after => cases outcome <;> rfl

theorem attempts_succ (env : Environment) (settings : RetrySettings) (target : Target)
    (request : Request) (began : Delay) (retriesLeft : Nat) (retryFor : Option HeaderValue) :
    attempts env settings target request began (retriesLeft + 1) retryFor =
      Work.andThen
        (attemptOnce env settings target request (settings.maxRetries - retriesLeft) retryFor) fun
        | none => done (.error .cancelled)
        | some outcome =>
          settle env settings target request.method began (settings.maxRetries - retriesLeft)
            outcome (attempts env settings target request began retriesLeft
              (firstNamed retryFor outcome)) := by
  funext session
  rw [attempts, andThen_apply]
  cases attemptOnce env settings target request (settings.maxRetries - retriesLeft) retryFor
      session with
  | mk outcome after =>
      cases outcome with
      | none => rfl
      | some outcome =>
          simp only [settle, andThen_apply, reading_apply]
          cases delay? settings (settings.maxRetries - retriesLeft) request.method outcome
              (after.isCancelled env) with
          | none => rfl
          | some delay =>
              simp only [andThen_apply, changing_apply, reading_apply]
              split
              · rename_i spent
                rw [spent]
                rfl
              · rename_i within
                rw [Bool.eq_false_iff.mpr within]
                simp only [andThen_apply, changing_apply]
                split
                · rename_i waited
                  rw [waited]
                  rfl
                · rename_i waited
                  rw [waited]

theorem result_alike {aim : Target} {outcome answer : Outcome}
    (agree : Agree Eq (Response.Alike aim) outcome answer) :
    Agree Eq (Response.Alike aim) (result outcome) (result answer) := by
  cases agree with
  | error same => exact .error (congrArg _ same)
  | ok alike => exact .ok alike

theorem settle_coupled {aim : Target} {outcome answer : Outcome}
    {more moreToo : Work (Except Error Response)} (settings : RetrySettings) (target : Target)
    (method : String) (began : Delay) (attempt : Nat)
    (agree : Agree Eq (Response.Alike aim) outcome answer)
    (coupled : Coupled env other (Agree Eq (Response.Alike aim)) more moreToo) :
    Coupled env other (Agree Eq (Response.Alike aim))
      (settle env settings target method began attempt outcome more)
      (settle (env.answering other) settings target method began attempt answer moreToo) := by
  have ended := result_alike agree
  -- The policy looks at the status and at the headers of a response only.
  have chosen (cancelled : Bool) :
      delay? settings attempt method outcome cancelled =
        delay? settings attempt method answer cancelled := by
    cases agree with
    | error same => rw [same]
    | ok alike => cases alike <;> rfl
  have limited : RetrySettings.isRateLimited outcome = RetrySettings.isRateLimited answer := by
    cases agree with
    | error same => rw [same]
    | ok alike => cases alike <;> rfl
  unfold settle
  refine (Coupled.isCancelled env other).andThen (fun _ => rfl) ?_
  rintro cancelled _ rfl
  rw [chosen, limited]
  split
  · exact .done ended
  · refine (Coupled.tell env other _).andThen (fun _ => rfl) fun _ _ _ => ?_
    refine (Coupled.elapsed env other).andThen (fun _ => rfl) ?_
    rintro elapsed _ rfl
    split
    · exact .done ended
    · refine (Coupled.tell env other _).andThen (fun _ => rfl) fun _ _ _ => ?_
      refine (Coupled.wait env other _).andThen (fun _ => rfl) ?_
      rintro passed _ rfl
      cases passed with
      | false => exact .done (.error rfl)
      | true => exact coupled

theorem attempts_coupled (settings : RetrySettings) (target : Target) (began : Delay)
    (alike : request.Alike twin) (retriesLeft : Nat) (retryFor : Option HeaderValue) :
    Coupled env other (Agree Eq (Response.Alike request.target))
      (attempts env settings target request began retriesLeft retryFor)
      (attempts (env.answering other) settings target twin began retriesLeft retryFor) := by
  have refl (result : Option Outcome) :
      Option.Rel (Agree Eq (Response.Alike request.target)) result result := by
    cases result with
    | none => exact .none
    | some outcome => exact .some (.refl (fun _ => rfl) .same outcome)
  induction retriesLeft generalizing retryFor with
  | zero =>
      rw [attempts_zero, attempts_zero]
      refine (attemptOnce_coupled env other settings target alike _ retryFor).andThen refl ?_
      intro outcome answer related
      cases related with
      | none => exact .done (.error rfl)
      | some agree => exact .done (result_alike agree)
  | succ retriesLeft ih =>
      rw [attempts_succ, attempts_succ, ← alike.method]
      refine (attemptOnce_coupled env other settings target alike _ retryFor).andThen refl ?_
      intro outcome answer related
      cases related with
      | none => exact .done (.error rfl)
      | @some outcome answer agree =>
            have named : firstNamed retryFor outcome = firstNamed retryFor answer := by
              cases agree with
              | error same => rw [same]
              | ok alike =>
                  cases retryFor with
                  | none => exact congrArg (·.get? requestIdHeader) alike.headers_eq
                  | some id => rfl
            exact settle_coupled settings target _ began _ agree (named ▸ ih _)

theorem run_eq (env : Environment) (settings : RetrySettings) (target : Target)
    (request : Request) :
    run env settings target request =
      (changing (·.tell [.span target.kind .pipeline])).andThen fun _ =>
        (reading (·.elapsed)).andThen fun began =>
          Work.andThen (attempts env settings target request began settings.maxRetries none)
            fun result => (changing (·.tell [.counted target.kind (outcomeOf result)])).andThen
              fun _ => done result := rfl

/-- A call comes to answers that are alike, and to the same answer if its request presents a
token. -/
theorem run_coupled (env : Environment) (other : List Request → Request → Reply)
    (settings : RetrySettings) (target : Target) (alike : request.Alike twin) :
    Coupled env other (Agree Eq (Response.Alike request.target)) (run env settings target request)
      (run (env.answering other) settings target twin) := by
  rw [run_eq, run_eq]
  refine (Coupled.tell env other _).andThen (fun _ => rfl) fun _ _ _ => ?_
  refine (Coupled.elapsed env other).andThen (fun _ => rfl) ?_
  rintro began _ rfl
  refine (attempts_coupled settings target began alike settings.maxRetries none).andThen
    (.refl (fun _ => rfl) .same) fun result answer agree => ?_
  have counted : outcomeOf result = outcomeOf answer := by
    cases agree with
    | error same => rw [same]
    | ok alike => simp only [outcomeOf, alike.isSuccess_eq]
  rw [counted]
  exact (Coupled.tell env other _).andThen (fun _ => rfl) fun _ _ _ => .done agree

inductive TokenExchange.Alike : TokenExchange → TokenExchange → Prop where
  | advanced (step : HandshakeStep) : Alike (.advanced step) (.advanced step)
  | completed {response answer : Response} :
      Response.Alike .token response answer → Alike (.completed response) (.completed answer)

theorem TokenExchange.Alike.refl (ended : TokenExchange) : ended.Alike ended := by
  cases ended with
  | advanced step => exact .advanced step
  | completed response => exact .completed (.same response)

theorem runToken_eq_orError (env : Environment) (settings : RetrySettings) (request : Request) :
    runToken env settings request =
      Work.orError (run env settings .token request) fun response =>
        Work.orError (Session.observe env response) fun
          | some step => done (.ok (.advanced step))
          | none => done (.ok (.completed response)) := by
  funext session
  simp only [runToken, Work.orError, andThen_apply]
  cases run env settings .token request session with
  | mk answer later =>
      cases answer with
      | error error => rfl
      | ok response =>
          simp only [andThen_apply]
          cases later.observe env response with
          | mk taken after => rcases taken with error | (_ | step) <;> rfl

theorem runToken_coupled (env : Environment) (other : List Request → Request → Reply)
    (settings : RetrySettings) (alike : request.Alike twin) :
    Coupled env other (Agree Eq TokenExchange.Alike) (runToken env settings request)
      (runToken (env.answering other) settings twin) := by
  rw [runToken_eq_orError, runToken_eq_orError]
  have ran := (run_coupled env other settings .token alike).mono fun _ _ agree =>
    agree.mono (fun _ _ => id) fun _ _ => Response.Alike.forToken
  refine ran.orError (fun _ => rfl) .same fun response answer alike => ?_
  refine (Coupled.observe env other alike).orError (fun _ => rfl) (fun _ => rfl) ?_
  rintro step _ rfl
  cases step with
  | some step => exact .done (.ok (.advanced step))
  | none => exact .done (.ok (.completed alike))

end Pipeline

end KeyBound
