import Mathlib.Data.List.TakeWhile
import Redial.Wire.Channel

/-!
Where a call goes. Its path is the text of the service and the method up to
the first number sign. The text is sent if no character of it is refused where
it stands: one rule holds in front of the first question mark, and another one
behind it. Then the channel gets one request with that path, and the peer sees
no other. A text without number signs is sent as it is, and what stands behind
one makes no difference.
-/

namespace Redial.Wire

/-- The characters in front of the first number sign. -/
def uncut (text : List Char) : List Char :=
  text.takeWhile (· != '#')

def isSentInPath (char : Char) : Bool :=
  !(isRefused char || char == '\x60')

def isSentInQuery (char : Char) : Bool :=
  !(isRefused char || char == '"')

/-- Whether every character of a text may be sent where it stands, in the path
or in the query. -/
def isSendable (text : List Char) : Bool :=
  (text.takeWhile (· != '?')).all isSentInPath &&
    (text.dropWhile (· != '?')).all isSentInQuery

/-- The path of a call, up to the first number sign. -/
def target (service method : String) : String :=
  String.ofList (uncut (methodPath service method).toList)

section Scanning

variable {char : Char} {text rest : List Char}

theorem uncut_cons (hcut : char ≠ '#') :
    uncut (char :: rest) = char :: uncut rest := by
  simp [uncut, hcut]

/-- One step of a scan, which goes on if the character is not refused. -/
theorem map_cons_of_rest (isRefusedHere isRestSent : Bool) :
    (if isRefusedHere then none
      else (if isRestSent then some rest else none).map (char :: ·)) =
      if !isRefusedHere && isRestSent then some (char :: rest) else none := by
  cases isRefusedHere <;> cases isRestSent <;> rfl

theorem scanQuery_eq (text : List Char) :
    scanQuery text =
      if (uncut text).all isSentInQuery then some (uncut text) else none := by
  induction text with
  | nil => rfl
  | cons char rest ih =>
    unfold scanQuery
    by_cases hcut : char = '#'
    · simp [hcut, uncut]
    · rw [if_neg hcut, uncut_cons hcut, ih, map_cons_of_rest]
      rfl

theorem scanPath_eq (text : List Char) :
    scanPath text =
      if isSendable (uncut text) then some (uncut text) else none := by
  induction text with
  | nil => rfl
  | cons char rest ih =>
    unfold scanPath
    by_cases hcut : char = '#'
    · simp [hcut, uncut, isSendable]
    rw [if_neg hcut, uncut_cons hcut]
    by_cases hquery : char = '?'
    · have hsendable : isSendable (char :: uncut rest) =
          (uncut rest).all isSentInQuery := by
        rw [hquery]
        rfl
      rw [if_pos hquery, scanQuery_eq, hsendable]
      exact map_cons_of_rest false _
    · have hsendable : isSendable (char :: uncut rest) =
          (isSentInPath char && isSendable (uncut rest)) := by
        simp [isSendable, hquery, Bool.and_assoc]
      rw [if_neg hquery, hsendable, ih, map_cons_of_rest]
      rfl

theorem sentPath?_eq (path : String) :
    sentPath? path =
      if isSendable (uncut path.toList) then
        some (String.ofList (uncut path.toList))
      else none := by
  rw [sentPath?, scanPath_eq]
  split <;> rfl

/-- A text is cut if and only if there is a number sign in it. -/
theorem uncut_eq_self_iff : uncut text = text ↔ '#' ∉ text := by
  rw [uncut, List.takeWhile_eq_self_iff]
  constructor
  · intro hall hmem
    exact absurd (hall '#' hmem) (by decide)
  · intro hnone char hmem
    exact bne_iff_ne.mpr fun hsame => hnone (hsame ▸ hmem)

/-- What stands behind a number sign makes no difference. -/
theorem uncut_append_sign (text rest : List Char) :
    uncut (text ++ '#' :: rest) = uncut text := by
  induction text with
  | nil => rfl
  | cons char text ih =>
    by_cases hcut : char = '#'
    · simp [uncut, hcut]
    · rw [List.cons_append, uncut_cons hcut, uncut_cons hcut, ih]

theorem target_eq_iff {service method : String} :
    target service method = methodPath service method ↔
      '#' ∉ service.toList ∧ '#' ∉ method.toList := by
  have hsign : '#' ∉ (methodPath service method).toList ↔
      '#' ∉ service.toList ∧ '#' ∉ method.toList := by
    simp [methodPath]
  rw [← hsign, ← uncut_eq_self_iff, target, ← String.toList_inj,
    String.toList_ofList]

end Scanning

/-- What a channel makes of one request. -/
def Channel.unary (channel : Channel) (request : Request) :
    Except UnreadableDetails Exchange :=
  match channel with
  | .gone =>
    .ok
      { outcome := .error
          { code := .unavailable,
            message := "Service was not ready: transport error" }
        seen? := none }
  | .refuses =>
    .ok
      { outcome := .error
          { code := .unavailable, message := "connection refused" }
        seen? := none }
  | .replies message =>
    .ok
      { outcome := request.delivery.1.map fun _ => message,
        seen? := request.delivery.2 }
  | .fails status =>
    match request.delivery with
    | (.error refusal, seen?) => .ok { outcome := .error refusal, seen? }
    | (.ok _, seen?) =>
      (receivedStatus status).map fun received =>
        { outcome := .error received, seen? }

/-- The status of a call whose path has a character that is refused. -/
def invalidPath : RemoteStatus where
  code := .invalidArgument
  message := "Invalid method path: invalid uri character"

section Calls

variable {channel : Channel} {invocation : Invocation String}
  {request : Request}

/-- The request of a call, which goes to its target if every character of
that may be sent. -/
theorem ofInvocation_eq (invocation : Invocation String) :
    Request.ofInvocation invocation =
      if isSendable (target invocation.service invocation.method).toList then
        .ok
          { path := target invocation.service invocation.method
            metadata := invocation.metadata
            message := invocation.payload.message?.getD "" }
      else .error invalidPath := by
  rw [Request.ofInvocation, sentPath?_eq, target, String.toList_ofList]
  cases isSendable
    (uncut (methodPath invocation.service invocation.method).toList) <;> rfl

/-- A request goes to the target of its call. -/
theorem ofInvocation_path
    (hrequest : Request.ofInvocation invocation = .ok request) :
    request.path = target invocation.service invocation.method := by
  rw [ofInvocation_eq] at hrequest
  split at hrequest
  · obtain rfl := Except.ok.inj hrequest
    rfl
  · cases hrequest

theorem exchange_eq_unary
    (hrequest : Request.ofInvocation invocation = .ok request) :
    channel.exchange invocation = channel.unary request := by
  unfold Channel.exchange Channel.unary
  rw [hrequest]
  cases channel <;> rfl

theorem exchange_of_error {status : RemoteStatus} (hready : channel ≠ .gone)
    (hrequest : Request.ofInvocation invocation = .error status) :
    channel.exchange invocation =
      .ok { outcome := .error status, seen? := none } := by
  unfold Channel.exchange
  rw [hrequest]
  cases channel with
  | replies | fails | refuses => rfl
  | gone => exact absurd rfl hready

/-- What the peer sees has the path of the request. -/
theorem delivery_path {seen : SeenRequest}
    (hseen : request.delivery.2 = some seen) :
    seen.path = request.path := by
  unfold Request.delivery at hseen
  dsimp only at hseen
  split at hseen
  · cases hseen
  · split at hseen
    · cases hseen
    · split at hseen
      · obtain rfl := Option.some.inj hseen
        rfl
      · obtain rfl := Option.some.inj hseen
        rfl

/-- A channel shows its peer at most what is delivered of the one request. -/
theorem unary_seen? {exchange : Exchange}
    (hexchange : channel.unary request = .ok exchange) :
    exchange.seen? = none ∨ exchange.seen? = request.delivery.2 := by
  cases channel with
  | gone | refuses =>
    obtain rfl := Except.ok.inj hexchange
    exact .inl rfl
  | replies message =>
    obtain rfl := Except.ok.inj hexchange
    exact .inr rfl
  | fails status =>
    simp only [Channel.unary] at hexchange
    split at hexchange
    · rename_i hdelivery
      obtain rfl := Except.ok.inj hexchange
      rw [hdelivery]
      exact .inr rfl
    · rename_i hdelivery
      cases hreceived : receivedStatus status with
      | error =>
        rw [hreceived] at hexchange
        cases hexchange
      | ok received =>
        rw [hreceived] at hexchange
        obtain rfl := Except.ok.inj hexchange
        rw [hdelivery]
        exact .inr rfl

end Calls

/-- What comes of a call over a channel that is ready. It fails, and the peer
sees nothing, if its target has a character that is refused; or else the
channel gets one request. -/
structure Called (channel : Channel) (invocation : Invocation String) :
    Prop where
  refused :
    isSendable (target invocation.service invocation.method).toList = false →
      channel.exchange invocation =
        .ok { outcome := .error invalidPath, seen? := none }
  handed :
    isSendable (target invocation.service invocation.method).toList = true →
      ∃ request : Request,
        channel.exchange invocation = channel.unary request ∧
          request.path = target invocation.service invocation.method ∧
          request.metadata = invocation.metadata ∧
          (∀ message, invocation.payload = .value message →
            request.message = message) ∧
          ((∀ message, invocation.payload ≠ .value message) →
            request.message = "")
  seen : ∀ exchange seen, channel.exchange invocation = .ok exchange →
    exchange.seen? = some seen →
    seen.path = target invocation.service invocation.method

theorem called {channel : Channel} (hready : channel ≠ .gone)
    (invocation : Invocation String) :
    Called channel invocation := by
  constructor
  case refused =>
    intro hrefused
    refine exchange_of_error hready ?_
    rw [ofInvocation_eq, hrefused]
    rfl
  case handed =>
    intro hsendable
    have hrequest := ofInvocation_eq invocation
    rw [if_pos hsendable] at hrequest
    refine ⟨_, exchange_eq_unary hrequest, rfl, rfl, ?_, ?_⟩
    · intro message hpayload
      rw [hpayload]
      rfl
    · intro hother
      cases hpayload : invocation.payload with
      | value message => exact absurd hpayload (hother message)
      | absent | null | undefined => rfl
  case seen =>
    intro exchange seen hexchange hseen
    cases hrequest : Request.ofInvocation invocation with
    | error status =>
      rw [exchange_of_error hready hrequest] at hexchange
      obtain rfl := Except.ok.inj hexchange
      cases hseen
    | ok request =>
      rw [exchange_eq_unary hrequest] at hexchange
      rcases unary_seen? hexchange with hnone | hdelivered
      · rw [hnone] at hseen
        cases hseen
      · rw [delivery_path (hdelivered ▸ hseen), ofInvocation_path hrequest]

theorem target_append_sign (service method rest : String) :
    target service (method ++ "#" ++ rest) = target service method := by
  have hpath : (methodPath service (method ++ "#" ++ rest)).toList =
      (methodPath service method).toList ++ '#' :: rest.toList := by
    simp [methodPath]
  rw [target, hpath, uncut_append_sign, target]

/-- A call over a channel that is ready goes to the path of its service and
method, if there is no number sign in them and no character is refused. What
stands behind a number sign is not sent, and makes no difference. -/
theorem calls_go_to_target {channel : Channel} (hready : channel ≠ .gone)
    (invocation : Invocation String) :
    Called channel invocation ∧
    (target invocation.service invocation.method =
        methodPath invocation.service invocation.method ↔
      '#' ∉ invocation.service.toList ∧ '#' ∉ invocation.method.toList) ∧
    ∀ rest : String,
      channel.exchange
          { invocation with method := invocation.method ++ "#" ++ rest } =
        channel.exchange invocation := by
  refine ⟨called hready invocation, target_eq_iff, fun rest => ?_⟩
  have hrequest :
      Request.ofInvocation
          { invocation with method := invocation.method ++ "#" ++ rest } =
        Request.ofInvocation invocation := by
    rw [ofInvocation_eq, ofInvocation_eq, target_append_sign]
  unfold Channel.exchange
  rw [hrequest]

/-- A call of a method with a query, which is sent as it is, and one with a
blank, which is not. -/
theorem calls_go_to_target_with_query :
    let channel : Channel := .replies "pong"
    let call (method : String) : Invocation String :=
      { service := "echo.v1.Echo", method, payload := .value "ping",
        metadata := {} }
    (∃ request, channel.exchange (call "Say?to=all") = channel.unary request ∧
      request.path = "/echo.v1.Echo/Say?to=all" ∧ request.message = "ping") ∧
      channel.exchange (call "Say so") =
        .ok { outcome := .error invalidPath, seen? := none } := by
  intro channel call
  have hready : channel ≠ .gone := nofun
  obtain ⟨hsent, huncut, -⟩ := calls_go_to_target hready (call "Say?to=all")
  obtain ⟨hrefused, -, -⟩ := calls_go_to_target hready (call "Say so")
  constructor
  · obtain ⟨request, hexchange, hpath, -, hmessage, -⟩ :=
      hsent.handed (by decide +kernel)
    exact ⟨request, hexchange, hpath.trans (huncut.mpr (by decide)),
      hmessage "ping" rfl⟩
  · exact hrefused.refused (by decide +kernel)

/-- A method with a number sign in it is another method to the peer. -/
theorem number_sign_calls_another_method :
    let call : Invocation String :=
      { service := "echo.v1.Echo", method := "Say#x", payload := .absent,
        metadata := {} }
    ∃ exchange seen, (Channel.replies "pong").exchange call = .ok exchange ∧
      exchange.outcome.toOption = some "pong" ∧ exchange.seen? = some seen ∧
      seen.path = "/echo.v1.Echo/Say" ∧
      seen.path ≠ methodPath call.service call.method := by
  intro call
  let request : Request := ⟨"/echo.v1.Echo/Say", {}, ""⟩
  let seen : SeenRequest := request.seenWith request.body
  have hrequest : Request.ofInvocation call = .ok request := by decide +kernel
  have hdelivery : request.delivery = (.ok (), some seen) := by decide +kernel
  refine ⟨⟨.ok "pong", some seen⟩, seen, ?_, rfl, rfl, rfl, by decide⟩
  rw [exchange_eq_unary hrequest, Channel.unary, hdelivery]
  rfl

end Redial.Wire
