import ZaloBot.OutboundRows

/-!
# Indeterminate provider outcomes

Which HTTP exchanges may have been accepted by the provider, and which of
them `send_message` classifies so that the delivery paths never record a
definite failure.  Timeouts and complete responses are handled safely; any
other failure after the request was written is not.
-/

namespace ZaloBot

open ProviderSend

namespace IndeterminateSends

/-- The provider may have accepted the message: the status was a success or
the exchange failed after the request was written. -/
def mayHaveAccepted : HttpExchange → Bool
  | .sendFailed requestWritten _ => requestWritten
  | .bodyFailed status error => isSuccess status || error.connectionBroke
  | .response status _ => isSuccess status

/-- Failures after the request may have been accepted are timeouts. -/
def failsByTimeoutOnly : HttpExchange → Bool
  | .sendFailed requestWritten error => !requestWritten || error.isTimeout
  | .bodyFailed status error =>
      !(isSuccess status || error.connectionBroke) || error.isTimeout
  | .response _ _ => true

/-- The result is a success or ambiguous; either delivery path leaves the row
`sent` or `ambiguous`, and the leased one never asks for a retry. -/
structure NotDefinite (outboundId : Uuid) (result : SendResult) : Prop where
  classified : (∃ sent, result = .ok sent) ∨
    ∃ error, result = .error error ∧ error.errorClass = .providerAmbiguous
  recorded : ∀ now rows after,
    Outbound.updateDelivery now outboundId result rows = some after →
      ∃ row, after.find outboundId = some row ∧
        (row.state = .sent ∨ row.state = .ambiguous)
  completed : ∀ errorClass, result.execution outboundId ≠ .fail errorClass

variable {outboundId : Uuid} {result : SendResult}

theorem deliveryState_of_classified
    (classified : (∃ sent, result = .ok sent) ∨
      ∃ error, result = .error error ∧
        error.errorClass = .providerAmbiguous) :
    result.deliveryState = .sent ∨ result.deliveryState = .ambiguous := by
  rcases classified with ⟨sent, rfl⟩ | ⟨error, rfl, ambiguous⟩
  · exact Or.inl rfl
  · exact Or.inr (if_pos ambiguous)

/-- The classification decides what both delivery paths do. -/
theorem notDefinite_iff :
    NotDefinite outboundId result ↔
      (∃ sent, result = .ok sent) ∨
        ∃ error, result = .error error ∧
          error.errorClass = .providerAmbiguous := by
  constructor
  · exact NotDefinite.classified
  · intro classified
    have state := deliveryState_of_classified classified
    refine ⟨classified, ?_, ?_⟩
    · intro now rows after updated
      obtain ⟨row, _, _, found, _⟩ := Outbound.updateRow_eq_some updated
      refine ⟨_, found, ?_⟩
      rcases state with sent | ambiguous
      · simp [OutboundRow.markDelivered, sent, DeliveryState.rowState]
      · simp [OutboundRow.markDelivered, ambiguous, DeliveryState.rowState]
    · intro errorClass
      rcases classified with ⟨sent, rfl⟩ | ⟨error, rfl, ambiguous⟩
      · simp [SendResult.execution]
      · simp [SendResult.execution, SendResult.deliveryState, ambiguous]

theorem mapTransportError_class (token chatId text : String)
    (error : TransportError) :
    (mapTransportError token chatId text error).errorClass =
      if error.isTimeout then .providerAmbiguous else .providerError := by
  unfold mapTransportError
  split <;> rfl

theorem parseSuccessBody_classified
    (decode : List UInt8 → Option SendResponse) (body : List UInt8)
    (token chatId text : String) :
    (∃ sent, parseSuccessBody decode body token chatId text = .ok sent) ∨
      ∃ error, parseSuccessBody decode body token chatId text =
          .error error ∧ error.errorClass = .providerAmbiguous := by
  unfold parseSuccessBody
  split
  · exact Or.inr ⟨_, rfl, rfl⟩
  · split
    · exact Or.inl ⟨_, rfl⟩
    · exact Or.inr ⟨_, rfl, rfl⟩

theorem classifyExchange_iff (decode : List UInt8 → Option SendResponse)
    (token chatId text : String) (exchange : HttpExchange) :
    (mayHaveAccepted exchange = true →
      NotDefinite outboundId
        (classifyExchange decode token chatId text exchange)) ↔
      failsByTimeoutOnly exchange = true := by
  have transport (error : TransportError) :
      NotDefinite outboundId
          (.error (mapTransportError token chatId text error)) ↔
        error.isTimeout = true := by
    rw [notDefinite_iff]
    cases timeout : error.isTimeout <;>
      simp [mapTransportError_class, timeout]
  cases exchange with
  | sendFailed requestWritten error =>
      simp only [mayHaveAccepted, classifyExchange, transport,
        failsByTimeoutOnly]
      cases requestWritten <;> simp
  | bodyFailed status error =>
      simp only [mayHaveAccepted, classifyExchange, transport,
        failsByTimeoutOnly]
      cases isSuccess status || error.connectionBroke <;> simp
  | response status body =>
      simp only [mayHaveAccepted, classifyExchange, failsByTimeoutOnly,
        iff_true]
      intro success
      rw [if_pos success, notDefinite_iff]
      exact parseSuccessBody_classified decode body token chatId text

/-- For every exchange that `send_message` makes: an exchange the provider may
have accepted is never treated as a definite failure if and only if failures
after the request was written are timeouts. -/
theorem indeterminate_not_definite_iff (baseUrl : String → BaseUrl)
    (decode : List UInt8 → Option SendResponse) (config : ZaloHttpConfig)
    (chatId text : String) (exchange : HttpExchange) (outboundId : Uuid)
    (made : prepareRequest baseUrl config chatId text = .ok ()) :
    (mayHaveAccepted exchange = true →
      NotDefinite outboundId
        (sendMessage baseUrl decode config chatId text exchange)) ↔
      failsByTimeoutOnly exchange = true := by
  simp only [sendMessage, made]
  exact classifyExchange_iff decode config.botToken chatId text exchange

theorem indeterminate_not_definite_timeout :
    prepareRequest (fun _ => .base) ⟨"https://bot", "token"⟩ "chat" "text" =
        .ok () ∧
      ((mayHaveAccepted (.bodyFailed 200 ⟨true, false, "deadline"⟩) = true →
        NotDefinite ⟨"message"⟩
          (sendMessage (fun _ => .base) (fun _ => none)
            ⟨"https://bot", "token"⟩ "chat" "text"
            (.bodyFailed 200 ⟨true, false, "deadline"⟩))) ↔
        failsByTimeoutOnly (.bodyFailed 200 ⟨true, false, "deadline"⟩) =
          true) :=
  ⟨by decide, indeterminate_not_definite_iff _ _ _ _ _ _ _ (by decide)⟩

/-- A success status whose body breaks off is recorded as a definite
failure. -/
theorem broken_success_body_definite :
    ¬ (mayHaveAccepted (.bodyFailed 200 ⟨false, true, "reset"⟩) = true →
      NotDefinite ⟨"message"⟩
        (sendMessage (fun _ => .base) (fun _ => none)
          ⟨"https://bot", "token"⟩ "chat" "text"
          (.bodyFailed 200 ⟨false, true, "reset"⟩))) := by
  intro claimed
  have safe := (claimed (by decide)).completed .providerError
  exact safe (by decide)

end IndeterminateSends

end ZaloBot
