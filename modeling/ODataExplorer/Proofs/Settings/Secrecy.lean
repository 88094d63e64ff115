import ODataExplorer.Proofs.Text.Quoted
import ODataExplorer.Proofs.Text.Trim
import ODataExplorer.Server.Token

/-!
What the log tells about the token.

Every variable is read by its name, so environments that differ in the token alone lead to the same
entries about everything else (`readClient_congr`, `besidesToken_congr`). The token is read like the
rest: when blanks stand around it, one entry quotes it with them and without (`trimmed_around`), and
a quoted text is the quotation of one text only. A refusal names neither the token that came nor the
valid one (`log_checkToken_of_wrong`).

Main statement: two different tokens with the same blanks around them lead to the same entries
exactly when these blanks are none, and otherwise one entry, the first about the interface, tells
them apart (`token_logged`).

What is not claimed: that no token is told from the others. The one for development is, by its
warning, and it stands in where none is set.
-/

namespace ODataExplorer.Settings

open Text Log

variable {key before value value' after token token' : String} {env env' : Environment}

/-! ## Logs -/

theorem log_bind {α β : Type} (logged : Logged α) (next : α → Logged β) :
    (logged >>= next).log = logged.log ++ (next logged.value).log := rfl

theorem log_pure {α : Type} (a : α) : (pure a : Logged α).log = [] := rfl

/-! ## One variable -/

namespace Environment

/-- What is reported of a value with blanks around it: the value with them and without. -/
def blanksReport (key before value after : String) : List Entry :=
  if before ++ after = "" then []
  else [.warning (s!"Environment variable {key} had trailing whitespace/line endings: " ++
    s!"raw={quoted (before ++ value ++ after)}, cleaned={quoted value}")]

/-- Nothing stands around a text that stays the same with it. -/
theorem around_eq_self_iff : before ++ value ++ after = value ↔ before ++ after = "" := by
  constructor
  · intro h
    have hlength := congrArg String.length h
    rw [String.length_append, String.length_append] at hlength
    rw [← String.length_eq_zero_iff, String.length_append]
    omega
  · intro h
    obtain ⟨rfl, rfl⟩ := String.append_eq_empty_iff.mp h
    rw [String.append_empty, String.empty_append]

/-- A trimmed value is read without the blanks around it, and they are reported. -/
theorem trimmed_around (hbefore : isBlankText before = true) (hafter : isBlankText after = true)
    (hvalue : IsTrimmed value) (key : String) :
    trimmed key (before ++ value ++ after) = ⟨value, blanksReport key before value after⟩ := by
  have hclean : trim (before ++ value ++ after) = value :=
    (trim_around hbefore hafter value).trans hvalue
  rw [trimmed, blanksReport, hclean]
  by_cases hnone : before ++ after = ""
  · rw [if_pos hnone, around_eq_self_iff.mpr hnone, beq_self_eq_true, if_pos rfl]
    rfl
  · have hne : ¬(before ++ value ++ after == value) = true := fun heq =>
      hnone (around_eq_self_iff.mp (eq_of_beq heq))
    rw [if_neg hnone, if_neg hne]

/-- A report of blanks gives the value away: what it quotes is the quotation of nothing else. -/
theorem blanksReport_eq_iff (hbefore : isBlankText before = true)
    (hafter : isBlankText after = true) (hvalue : IsTrimmed value) (hvalue' : IsTrimmed value') :
    blanksReport key before value after = blanksReport key before value' after ↔
      before ++ after = "" ∨ value = value' := by
  constructor
  · intro h
    rw [blanksReport, blanksReport] at h
    split at h
    · next hnone => exact .inl hnone
    · have hmessage := congrArg Entry.message (List.cons.inj h).1
      simp only [Entry.warning, String.append_right_inj, String.append_assoc] at hmessage
      have hraw := (quoted_append_inj hmessage).1
      have htrim := congrArg trim hraw
      rw [← String.append_assoc, ← String.append_assoc, trim_around hbefore hafter,
        trim_around hbefore hafter, hvalue, hvalue'] at htrim
      exact .inr htrim
  · rintro (hnone | rfl)
    · rw [blanksReport, blanksReport, if_pos hnone, if_pos hnone]
    · rfl

variable {standard : String} {standard? : Option String}

theorem text_congr (h : env.lookup key = env'.lookup key) :
    env.text key standard = env'.text key standard := by
  rw [text, text, h]

theorem text?_congr (h : env.lookup key = env'.lookup key) :
    env.text? key standard? = env'.text? key standard? := by
  rw [text?, text?, h]

theorem readAs?_congr {α : Type} {read : String → Option α} {complaint : String}
    (h : env.lookup key = env'.lookup key) :
    readAs? read complaint key standard env = readAs? read complaint key standard env' := by
  rw [readAs?, readAs?, text?_congr h]

theorem number_congr {standard : Double} (h : env.lookup key = env'.lookup key) :
    env.number key standard = env'.number key standard := by
  rw [number, number, number?, number?, readAs?_congr h]

theorem truth_congr {standard : Bool} (h : env.lookup key = env'.lookup key) :
    env.truth key standard = env'.truth key standard := by
  rw [truth, truth, truth?, truth?, readAs?_congr h]

theorem integer_congr {standard : Int} (h : env.lookup key = env'.lookup key) :
    env.integer key standard = env'.integer key standard := by
  rw [integer, integer, integer?, integer?, readAs?_congr h]

theorem list_congr {separator? : Option String} {standard : List String}
    (h : env.lookup key = env'.lookup key) :
    env.list key separator? standard = env'.list key separator? standard := by
  rw [list, list, text?_congr h]

end Environment

/-! ## The settings -/

/-- The variable of the token. -/
def tokenKey : String := "API_TOKEN"

/-- Environments that do not differ, the token apart. -/
def AgreeBesidesToken (env env' : Environment) : Prop :=
  ∀ key ≠ tokenKey, env.lookup key = env'.lookup key

/-- A client has nothing to do with the token. -/
theorem readClient_congr (h : AgreeBesidesToken env env') : readClient env = readClient env' := by
  rw [readClient, readClient, Environment.number_congr (h "ODATA_REQUEST_TIMEOUT" (by decide)),
    Environment.truth_congr (h "ODATA_VERIFY_TLS" (by decide)),
    Environment.integer_congr (h "ODATA_MAX_RESPONSE_BYTES" (by decide)),
    Environment.text_congr (h "ODATA_USER_AGENT" (by decide))]

/-- What is reported of the variables of the interface other than the token. -/
def besidesToken (env : Environment) : List Entry :=
  let standard : Interface := {}
  (env.list "CORS_ORIGINS" (some ",") standard.origins).log ++
    (env.text "APP_VERSION" standard.version).log ++
    (env.text "LOG_LEVEL" standard.logLevel).log ++
    (env.text "LOG_FORMAT" standard.logFormat).log

theorem besidesToken_congr (h : AgreeBesidesToken env env') :
    besidesToken env = besidesToken env' := by
  rw [besidesToken, besidesToken, Environment.list_congr (h "CORS_ORIGINS" (by decide)),
    Environment.text_congr (h "APP_VERSION" (by decide)),
    Environment.text_congr (h "LOG_LEVEL" (by decide)),
    Environment.text_congr (h "LOG_FORMAT" (by decide))]

/-- The token is read first. -/
theorem log_readInterface (env : Environment) :
    (readInterface env).log = (env.text tokenKey developmentToken).log ++ besidesToken env := by
  simp only [readInterface, besidesToken, log_bind, log_pure, List.append_nil, List.append_assoc]
  rfl

theorem token_readInterface (env : Environment) :
    (readInterface env).value.token = (env.text tokenKey developmentToken).value := rfl

/-- The variable of the token holds a trimmed text with blanks around it. -/
structure HoldsToken (before token after : String) (env : Environment) : Prop where
  isBlankText_before : isBlankText before = true
  isBlankText_after : isBlankText after = true
  isTrimmed : IsTrimmed token
  lookup_tokenKey : env.lookup tokenKey = some (before ++ token ++ after)

namespace HoldsToken

/-- The valid token is the one without the blanks. They are reported first. -/
theorem text_eq (h : HoldsToken before token after env) :
    env.text tokenKey developmentToken =
      ⟨token, Environment.blanksReport tokenKey before token after⟩ := by
  rw [Environment.text, h.lookup_tokenKey, Option.getD_some,
    Environment.trimmed_around h.isBlankText_before h.isBlankText_after h.isTrimmed]

theorem token_readInterface (h : HoldsToken before token after env) :
    (readInterface env).value.token = token := by
  rw [Settings.token_readInterface, h.text_eq]

theorem log_readInterface (h : HoldsToken before token after env) :
    (readInterface env).log =
      Environment.blanksReport tokenKey before token after ++ besidesToken env := by
  rw [Settings.log_readInterface, h.text_eq]

end HoldsToken

/-! ## Refused tokens -/

/-- A refusal names neither the token that came nor the valid one. -/
theorem log_checkToken_of_wrong {settings : Interface} {warning : Server.Warning}
    (hvalid : settings.token ≠ developmentToken)
    (h : (Server.checkToken settings token warning).value.1 = .error .wrong) :
    (Server.checkToken settings token warning).log =
      [.info "Rejected request with invalid bearer token"] := by
  have huses : settings.usesDevelopmentToken = false := beq_eq_false_iff_ne.mpr hvalid
  have hwarn : Server.warnOfToken settings warning = pure warning := by
    rw [Server.warnOfToken, huses, Bool.false_and, if_neg Bool.false_ne_true]
  rw [Server.checkToken, hwarn, pure_bind] at h ⊢
  split at h
  · cases h
  · next hwrong => rw [if_neg hwrong]

/-! ## Two tokens -/

/-- The environments hold one token each, with the same blanks around it, and do not differ
otherwise. -/
structure DifferInToken (before token token' after : String) (env env' : Environment) : Prop where
  holdsToken : HoldsToken before token after env
  holdsToken' : HoldsToken before token' after env'
  agree : AgreeBesidesToken env env'

/-- **What the log tells about the token.** The entries about the client are the same for both
tokens, and so are those about the interface behind the report of the blanks. This report gives the
token away if there is anything to report. Refusals are alike unless a token is the one for
development. -/
theorem token_logged (h : DifferInToken before token token' after env env') :
    (readClient env).log = (readClient env').log ∧
    (∃ others,
      (readInterface env).log =
        Environment.blanksReport tokenKey before token after ++ others ∧
      (readInterface env').log =
        Environment.blanksReport tokenKey before token' after ++ others) ∧
    ((readInterface env).log = (readInterface env').log ↔ before ++ after = "" ∨ token = token') ∧
    (token ≠ developmentToken → token' ≠ developmentToken →
      ∀ credentials credentials' warning warning',
        (Server.checkToken (readInterface env).value credentials warning).value.1 =
          .error .wrong →
        (Server.checkToken (readInterface env').value credentials' warning').value.1 =
          .error .wrong →
        (Server.checkToken (readInterface env).value credentials warning).log =
          (Server.checkToken (readInterface env').value credentials' warning').log) := by
  obtain ⟨hholds, hholds', hagree⟩ := h
  have hlog := hholds.log_readInterface
  have hlog' := hholds'.log_readInterface
  rw [← besidesToken_congr hagree] at hlog'
  refine ⟨congrArg Logged.log (readClient_congr hagree), ⟨besidesToken env, hlog, hlog'⟩, ?_, ?_⟩
  · rw [hlog, hlog', List.append_left_inj,
      Environment.blanksReport_eq_iff hholds.isBlankText_before hholds.isBlankText_after
        hholds.isTrimmed hholds'.isTrimmed]
  · intro hne hne' credentials credentials' warning warning' hwrong hwrong'
    rw [← hholds.token_readInterface] at hne
    rw [← hholds'.token_readInterface] at hne'
    rw [log_checkToken_of_wrong hne hwrong, log_checkToken_of_wrong hne' hwrong']

/-- Environments that hold one token each in front of the same variables. -/
theorem differInToken_cons (hbefore : isBlankText before = true)
    (hafter : isBlankText after = true) (htoken : IsTrimmed token) (htoken' : IsTrimmed token')
    (others : Environment) :
    DifferInToken before token token' after ((tokenKey, before ++ token ++ after) :: others)
      ((tokenKey, before ++ token' ++ after) :: others) where
  holdsToken := ⟨hbefore, hafter, htoken, List.lookup_cons_self⟩
  holdsToken' := ⟨hbefore, hafter, htoken', List.lookup_cons_self⟩
  agree := fun key hne => by
    rw [List.lookup_cons, List.lookup_cons, beq_eq_false_iff_ne.mpr hne]

/-- An environment from a file whose lines end in two characters, read as if they ended in one. -/
def editedFile (token : String) : Environment := [(tokenKey, token ++ "\r\n")]

theorem differInToken_editedFile :
    DifferInToken "" "s3cret" "hunter2" "\r\n" (editedFile "s3cret") (editedFile "hunter2") :=
  differInToken_cons (by decide) (by decide) (by decide) (by decide) []

/-- Whoever guesses is refused with the same entries, and whoever reads the log need not guess. -/
theorem token_logged_guess :
    DifferInToken "" "s3cret" "hunter2" "\r\n" (editedFile "s3cret") (editedFile "hunter2") ∧
      (readClient (editedFile "s3cret")).log = (readClient (editedFile "hunter2")).log ∧
      ((readInterface (editedFile "s3cret")).log = (readInterface (editedFile "hunter2")).log ↔
        "" ++ "\r\n" = "" ∨ "s3cret" = "hunter2") ∧
      (Server.checkToken (readInterface (editedFile "s3cret")).value "guess" .due).log =
        (Server.checkToken (readInterface (editedFile "hunter2")).value "guess" .given).log := by
  obtain ⟨hclient, -, hinterface, hrefused⟩ := token_logged differInToken_editedFile
  exact ⟨differInToken_editedFile, hclient, hinterface,
    hrefused (by decide) (by decide) "guess" "guess" .due .given (by decide +kernel)
      (by decide +kernel)⟩

/-- **A line end behind the token puts it into the log.** -/
theorem token_shown :
    DifferInToken "" "s3cret" "hunter2" "\r\n" (editedFile "s3cret") (editedFile "hunter2") ∧
      (readInterface (editedFile "s3cret")).log =
        [.warning ("Environment variable API_TOKEN had trailing whitespace/line endings: " ++
          "raw='s3cret\\r\\n', cleaned='s3cret'")] ∧
      (readInterface (editedFile "hunter2")).log =
        [.warning ("Environment variable API_TOKEN had trailing whitespace/line endings: " ++
          "raw='hunter2\\r\\n', cleaned='hunter2'")] ∧
      (readInterface (editedFile "s3cret")).log ≠ (readInterface (editedFile "hunter2")).log :=
  ⟨differInToken_editedFile, by decide +kernel, by decide +kernel, by decide +kernel⟩

end ODataExplorer.Settings
