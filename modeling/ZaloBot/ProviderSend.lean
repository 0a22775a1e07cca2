import ZaloBot.ErrorClass
import ZaloBot.Redaction

/-!
# Sending a chat message to the provider

The request validation, the classification of everything an HTTP exchange can
end in, and the redaction of provider errors.  The URL parser and the JSON
decoder are outside the repository: how a base URL parses and what a success
body decodes to are parameters.
-/

namespace ZaloBot

namespace ProviderSend

open Redaction (redactValue)

/-- How `reqwest::Url::parse` and `path_segments_mut` judge a base URL. -/
inductive BaseUrl where
  | invalid
  | cannotBeABase
  | base
deriving DecidableEq, Repr

/-- The settings of the adapter that sending reads. -/
structure ZaloHttpConfig where
  apiBase : String
  botToken : String
deriving DecidableEq, Repr

/-- The texts that must not appear in an error. -/
structure RedactionNeedles where
  token : String
  chatId : String
  text : String
  url : String
deriving DecidableEq, Repr

structure ZaloProviderError where
  errorClass : ErrorClass
  message : String
  needles : RedactionNeedles
deriving DecidableEq, Repr

/-- `ZaloProviderError::new`. -/
def ZaloProviderError.new (errorClass : ErrorClass) (message : String) :
    ZaloProviderError :=
  ⟨errorClass, message, ⟨"", "", "", ""⟩⟩

/-- `attach_send_context`. -/
def ZaloProviderError.attachSendContext (error : ZaloProviderError)
    (token chatId text : String) : ZaloProviderError :=
  { error with
    needles :=
      { error.needles with token := token, chatId := chatId, text := text } }

/-- `ZaloProviderError::redacted_message`. -/
def ZaloProviderError.redactedMessage (error : ZaloProviderError) : String :=
  redactValue error.message error.needles.token error.needles.chatId
    error.needles.text error.needles.url

structure SendMessageResult where
  providerMessageId : String
deriving DecidableEq, Repr

/-- `validate_outbound`. -/
def validateOutbound (chatId text : String) :
    Except ZaloProviderError Unit :=
  if RustText.isBlank chatId then
    .error (.new .validation "provider chat id required")
  else if RustText.isBlank text then
    .error (.new .validation "message text required")
  else if 2000 < RustText.charCount text then
    .error (.new .validation "message text exceeds 2000 characters")
  else
    .ok ()

/-- What the client reports when the transport fails. -/
structure TransportError where
  isTimeout : Bool
  connectionBroke : Bool
  cause : String
deriving DecidableEq, Repr

/-- Everything the HTTP exchange of one request can end in: `send` fails
before or after the request was written, a status arrives but reading the body
fails, or a whole response arrives. -/
inductive HttpExchange where
  | sendFailed (requestWritten : Bool) (error : TransportError)
  | bodyFailed (status : Nat) (error : TransportError)
  | response (status : Nat) (body : List UInt8)
deriving DecidableEq, Repr

/-- `StatusCode::is_success`. -/
def isSuccess (status : Nat) : Bool :=
  200 ≤ status && status < 300

/-- A `message_id` member as `id_from_value` sees it. -/
inductive MessageIdValue where
  | string (text : String)
  | number (digits : String)
  | other
deriving DecidableEq, Repr

/-- A decoded success body; the message id is that of a present `result`. -/
structure SendResponse where
  ok : Bool
  messageId : Option MessageIdValue
deriving DecidableEq, Repr

/-- `id_from_value`. -/
def idFromValue : MessageIdValue → Option String
  | .string text => some text
  | .number digits => some digits
  | .other => none

/-- `map_transport_error`. -/
def mapTransportError (token chatId text : String) (error : TransportError) :
    ZaloProviderError :=
  if error.isTimeout then
    (ZaloProviderError.new .providerAmbiguous
      "sendMessage request timed out").attachSendContext token chatId text
  else
    (ZaloProviderError.new .providerError
      ("sendMessage request failed: " ++
        redactValue error.cause token chatId text "")).attachSendContext
          token chatId text

/-- `classify_http_status`. -/
def classifyHttpStatus (status : Nat) (token chatId text : String) :
    ZaloProviderError :=
  let errorClass : ErrorClass :=
    if status = 429 then .rateLimited else .providerError
  (ZaloProviderError.new errorClass
    ("zalo api returned HTTP " ++ toString status)).attachSendContext
      token chatId text

section Sending

variable (baseUrl : String → BaseUrl)
variable (decode : List UInt8 → Option SendResponse)

/-- `send_url`, up to the URL itself. -/
def sendUrl (config : ZaloHttpConfig) : Except ZaloProviderError Unit :=
  match baseUrl (RustText.trimEndMatches config.apiBase '/') with
  | .invalid => .error (.new .validation "zalo api base is invalid")
  | .cannotBeABase =>
      .error (.new .validation "zalo api base cannot be a base URL")
  | .base => .ok ()

/-- The checks before the request; only when they pass is there an exchange. -/
def prepareRequest (config : ZaloHttpConfig) (chatId text : String) :
    Except ZaloProviderError Unit :=
  match validateOutbound chatId text with
  | .error error => .error error
  | .ok () =>
      if RustText.isBlank config.botToken then
        .error (.new .validation "zalo bot token not configured")
      else
        match sendUrl baseUrl config with
        | .error error =>
            .error (error.attachSendContext config.botToken chatId text)
        | .ok () => .ok ()

/-- `parse_success_body`. -/
def parseSuccessBody (body : List UInt8) (token chatId text : String) :
    Except ZaloProviderError SendMessageResult :=
  match decode body with
  | none =>
      .error ((ZaloProviderError.new .providerAmbiguous
        "malformed sendMessage response").attachSendContext token chatId text)
  | some parsed =>
      if parsed.ok then
        .ok ⟨(parsed.messageId.bind idFromValue).getD ""⟩
      else
        .error ((ZaloProviderError.new .providerAmbiguous
          "sendMessage response was not ok").attachSendContext token chatId
            text)

/-- What `send_message` makes of an exchange. -/
def classifyExchange (token chatId text : String) (exchange : HttpExchange) :
    Except ZaloProviderError SendMessageResult :=
  match exchange with
  | .sendFailed _ error => .error (mapTransportError token chatId text error)
  | .bodyFailed _ error => .error (mapTransportError token chatId text error)
  | .response status body =>
      if isSuccess status then
        parseSuccessBody decode body token chatId text
      else
        .error (classifyHttpStatus status token chatId text)

/-- `send_message`: `exchange` is how the exchange ends if one is made. -/
def sendMessage (config : ZaloHttpConfig) (chatId text : String)
    (exchange : HttpExchange) : Except ZaloProviderError SendMessageResult :=
  match prepareRequest baseUrl config chatId text with
  | .error error => .error error
  | .ok () => classifyExchange decode config.botToken chatId text exchange

end Sending

end ProviderSend

end ZaloBot
