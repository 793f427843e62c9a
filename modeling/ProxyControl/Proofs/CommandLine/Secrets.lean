import ProxyControl.Proofs.CommandLine.Override
import ProxyControl.Proofs.Credentials

namespace ProxyControl

open Session

/-- Two values of a secret: the same one, or two that are not empty and can both be sent. -/
inductive Exchangeable (isSendable : Text → Prop) : Option Text → Option Text → Prop where
  | same (value : Option Text) : Exchangeable isSendable value value
  | other {first second : Text} (first_nonempty : first ≠ []) (second_nonempty : second ≠ [])
    (first_sendable : isSendable first) (second_sendable : isSendable second) :
    Exchangeable isSendable (some first) (some second)

/-- A password is sent in UTF-8. -/
def Passwords : Option Text → Option Text → Prop := Exchangeable Text.IsUnicode

/-- A token is sent in ASCII. -/
def Tokens : Option Text → Option Text → Prop := Exchangeable fun token => ∀ p ∈ token, p.isAscii = true

theorem present_of_ne_nil {value : Text} (nonempty : value ≠ []) : Text.present (some value) = some value := by
  cases value with
  | nil => exact absurd rfl nonempty
  | cons p value => rfl

theorem Exchangeable.present_or {isSendable : Text → Prop} {first second : Option Text}
    (exchangeable : Exchangeable isSendable first second) (flag rest : Option Text) :
    Exchangeable isSendable ((Text.present flag).or ((Text.present first).or rest))
      ((Text.present flag).or ((Text.present second).or rest)) := by
  cases Text.present flag with
  | some value => exact .same _
  | none =>
    cases exchangeable with
    | same value => exact .same _
    | other first_nonempty second_nonempty first_sendable second_sendable =>
      rw [present_of_ne_nil first_nonempty, present_of_ne_nil second_nonempty]
      exact .other first_nonempty second_nonempty first_sendable second_sendable

/-- Two targets that differ at most in their secrets. -/
structure Target.Alike (left right : Target) : Prop where
  url : left.rpaasUrl = right.rpaasUrl
  user : left.rpaasUser = right.rpaasUser
  password : Passwords left.rpaasPassword right.rpaasPassword
  proxy : left.tsuruTarget = right.tsuruTarget
  token : Tokens left.tsuruToken right.tsuruToken

namespace Client

variable {route : Route} {baseUrl : Text} {timeout : Binary64} {headers : List (Text × Text)} {first second : Text}

theorem checkEncoding_of_passwords {user : Text} (first_unicode : first.IsUnicode) (second_unicode : second.IsUnicode) :
    checkEncoding ⟨route, baseUrl, timeout, headers, some (user, first)⟩ =
      checkEncoding ⟨route, baseUrl, timeout, headers, some (user, second)⟩ := by
  unfold checkEncoding
  dsimp only
  rw [Text.toUtf8_eq_ok.mpr ⟨first_unicode, rfl⟩, Text.toUtf8_eq_ok.mpr ⟨second_unicode, rfl⟩]
  rfl

theorem checkEncoding_of_headers {header : Text × Text} {name : Text} (first_ascii : ∀ p ∈ first, p.isAscii = true)
    (second_ascii : ∀ p ∈ second, p.isAscii = true) :
    checkEncoding ⟨route, baseUrl, timeout, [header, (name, first)], none⟩ =
      checkEncoding ⟨route, baseUrl, timeout, [header, (name, second)], none⟩ := by
  unfold checkEncoding
  dsimp only
  simp only [List.forIn_cons, Text.toAscii_of_ascii first_ascii, Text.toAscii_of_ascii second_ascii]
  rfl

theorem parallel_direct {first second : Option Text} (passwords : Passwords first second) (url : Text)
    (user : Option Text) (options : ClientOptions) :
    Parallel Alike (ofOutcome (direct url user first options)) (ofOutcome (direct url user second options)) := by
  unfold direct create
  split
  · exact parallel_throw _
  · refine parallel_pure ⟨rfl, rfl, rfl, ?_, rfl⟩
    cases passwords with
    | same value => rfl
    | other _ _ first_unicode second_unicode =>
      cases Text.present user with
      | none => rfl
      | some user => exact checkEncoding_of_passwords first_unicode second_unicode

theorem parallel_proxied {first second : Text} (first_ascii : ∀ p ∈ first, p.isAscii = true)
    (second_ascii : ∀ p ∈ second, p.isAscii = true) (target service : Text) (options : ClientOptions) :
    Parallel Alike (ofOutcome (proxied target first service options))
      (ofOutcome (proxied target second service options)) := by
  have bearer {token : Text} (ascii : ∀ p ∈ token, p.isAscii = true) :
      ∀ p ∈ ("Bearer " : Text) ++ token, p.isAscii = true := by
    intro p member
    exact (List.mem_append.mp member).elim ((by decide : ∀ p ∈ ("Bearer " : Text), p.isAscii = true) p) (ascii p)
  unfold proxied create
  split
  · exact parallel_throw _
  split
  · exact parallel_throw _
  · exact parallel_pure ⟨rfl, rfl, rfl, checkEncoding_of_headers (bearer first_ascii) (bearer second_ascii), rfl⟩

end Client

theorem Target.Alike.parallel_client {left right : Target} (alike : left.Alike right) (service : Option Text)
    (options : ClientOptions) :
    Parallel Client.Alike (ofOutcome (left.client service options)) (ofOutcome (right.client service options)) := by
  obtain ⟨url, user, passwords, proxy, tokens⟩ := alike
  unfold Target.client
  rw [url, user, proxy]
  generalize left.tsuruToken = first at tokens
  generalize right.tsuruToken = second at tokens
  cases Text.present right.rpaasUrl with
  | some url => exact Client.parallel_direct passwords url right.rpaasUser options
  | none =>
    cases Text.present right.tsuruTarget with
    | none => exact parallel_throw _
    | some proxy =>
      cases tokens with
      | same =>
        cases Text.present first with
        | none => exact parallel_throw _
        | some token =>
          exact (parallel_ofOutcome (Client.proxied proxy token (service.getD []) options)).mono Client.Alike.of_eq
      | other first_nonempty second_nonempty first_ascii second_ascii =>
        rw [present_of_ne_nil first_nonempty, present_of_ne_nil second_nonempty]
        exact Client.parallel_proxied first_ascii second_ascii proxy (service.getD []) options

namespace CommandLine

theorem parallel_reporting {α : Type} {operation : Text} {isMeant : Failure → Bool} {left right : Call α}
    (inner : Parallel Eq left right) :
    Parallel Eq (reporting operation isMeant left) (reporting operation isMeant right) :=
  inner.tryCatch fun _ => parallel_throw _

theorem parallel_showing (asJson : Bool) (policy : Autoscale) :
    Parallel Eq (showing asJson policy) (showing asJson policy) := by
  have shown : Parallel Eq (ofOutcome (policy.rendered asJson) >>= write)
      (ofOutcome (policy.rendered asJson) >>= write) := (parallel_ofOutcome _).bind_eq parallel_write
  unfold showing
  dsimp only
  split
  · exact (Parallel.forIn fun record _ => (parallel_note record).bind_eq fun _ => parallel_pure rfl).bind_eq fun _ =>
      shown
  · exact shown

/-- What a command does, apart from whom its request says it comes from, tells nothing about the secrets. -/
theorem Command.parallel_perform {left right : Context} (targets : left.target.Alike right.target)
    (options : left.options = right.options) (command : Command) (answer : Http.Answer) :
    Parallel Eq (command.perform left answer) (command.perform right answer) := by
  have clients (service : Option Text) :
      Parallel Client.Alike (ofOutcome (left.client service)) (ofOutcome (right.client service)) := by
    rw [Context.client, Context.client, options]
    exact targets.parallel_client service right.options
  cases command with
  | version => exact parallel_write _
  | showPolicy service target asJson =>
    refine (clients service).bind fun alike => ?_
    exact (parallel_reporting (Client.parallel_getAutoscale alike _ answer)).bind_eq (parallel_showing asJson)
  | updatePolicy service target flags =>
    refine (parallel_ofOutcome _).bind_eq fun policy => (parallel_note _).bind_eq fun _ =>
      (clients service).bind fun alike => ?_
    exact (parallel_reporting (Client.parallel_updateAutoscale alike _ answer policy)).bind_eq fun _ => parallel_write _
  | removePolicy service target =>
    refine (clients service).bind fun alike => ?_
    exact (parallel_reporting (Client.parallel_removeAutoscale alike _ answer)).bind_eq fun _ => parallel_write _
  | showLog service flags =>
    refine (parallel_ofOutcome _).bind_eq fun args => (clients service).bind fun alike => ?_
    exact parallel_reporting (Client.parallel_log alike answer args)

/-- Two environments that differ at most in the secrets: the values of the password are not empty and have an encoding,
and those of the token are not empty and consist of ASCII characters. -/
structure DifferInSecrets (left right : Environment) : Prop where
  others : Environment.AgreeExcept (fun name => name = "rpaas_password" ∨ name = "tsuru_token") left right
  password : Passwords (left.setting? "rpaas_password") (right.setting? "rpaas_password")
  token : Tokens (left.setting? "tsuru_token") (right.setting? "tsuru_token")

section

variable {left right : Environment} (differ : DifferInSecrets left right)

include differ

theorem DifferInSecrets.targets (flags : Target) :
    Target.Alike (flags.over (left.settings.target.over {})) (flags.over (right.settings.target.over {})) := by
  have setting {name : Text} (fixed : ¬ (name = "rpaas_password" ∨ name = "tsuru_token")) :=
    differ.others.setting? fixed
  refine ⟨?_, ?_, differ.password.present_or _ _, ?_, differ.token.present_or _ _⟩
  · exact present_or_congr (.inr (setting (by decide)))
  · exact present_or_congr (.inr (setting (by decide)))
  · exact present_or_congr (.inr (setting (by decide)))

theorem DifferInSecrets.prepared {invocation : Invocation} {files : Files} :
    invocation.prepare left files = invocation.prepare right files := by
  refine prepare_congr (differ.others.home ?_) fun _ => differ.others.setting? (by decide)
  rw [show Text.lower "HOME" = "home" by decide +kernel]
  decide

end

/-- Two results that differ at most in whom the requests say they come from. -/
structure Result.Alike (left right : Result) : Prop where
  ending : left.ending = right.ending
  output : left.output = right.output
  errors : left.errors = right.errors
  files : left.files = right.files
  requests : left.requests.map Http.Request.anonymous = right.requests.map Http.Request.anonymous

section

variable {surroundings : Surroundings} {invocation : Invocation} {logging : Logging} {left right : Context}
  {files : Files}

theorem carryOut_alike (targets : left.target.Alike right.target) (options : left.options = right.options) :
    (invocation.carryOut surroundings logging left files).Alike
      (invocation.carryOut surroundings logging right files) := by
  have started : invoked left invocation = invoked right invocation := by rw [invoked, invoked, targets.url]
  unfold Invocation.carryOut
  dsimp only
  rw [started]
  cases Command.ofInvocation invocation with
  | error reason =>
    cases reason with
    | help page => exact ⟨rfl, rfl, rfl, rfl, rfl⟩
    | misuse error => exact ⟨rfl, rfl, rfl, rfl, rfl⟩
  | ok command =>
    have ends := Command.parallel_perform targets options command surroundings.answer {} {} rfl
    dsimp only
    generalize Session.run {} (command.perform left surroundings.answer) = leftEnd at ends ⊢
    generalize Session.run {} (command.perform right surroundings.answer) = rightEnd at ends ⊢
    cases ends with
    | ok _ sessions =>
      obtain ⟨_, requests, records, written⟩ := anonymous_eq_iff.mp sessions
      dsimp only
      rw [records]
      exact ⟨rfl, written, rfl, rfl, requests⟩
    | error failure sessions =>
      obtain ⟨_, requests, records, written⟩ := anonymous_eq_iff.mp sessions
      dsimp only
      rw [records]
      exact ⟨rfl, written, rfl, rfl, requests⟩

end

/-- The secrets of the environment tell in nothing that an invocation leaves behind, except in the header that says who
sends a request. -/
theorem run_confidential {left right : Environment} (differ : DifferInSecrets left right) (surroundings : Surroundings)
    (words : List Text) :
    (run { surroundings with environment := left } words).Alike
      (run { surroundings with environment := right } words) := by
  unfold run
  dsimp only
  cases Invocation.ofWords words with
  | error reason =>
    cases reason with
    | help page => exact ⟨rfl, rfl, rfl, rfl, rfl⟩
    | misuse error => exact ⟨rfl, rfl, rfl, rfl, rfl⟩
  | ok invocation =>
    dsimp only
    rw [differ.prepared]
    cases invocation.prepare right surroundings.files with
    | error failure => exact ⟨rfl, rfl, rfl, rfl, rfl⟩
    | ok ready => exact carryOut_alike (differ.targets invocation.target) rfl

/-- What a user has in the environment who reaches the API with a password. -/
def withPassword (password : Text) : Environment :=
  [("RPAAS_PASSWORD", password), ("RPAAS_USER", "user"), ("RPAAS_URL", "http://rpaas.test")]

def plainRemoval : List Text := ["autoscale", "remove", "-i", "my-instance"]

theorem differInSecrets_withPassword {first second : Text} (first_nonempty : first ≠ [])
    (second_nonempty : second ≠ []) (first_unicode : first.IsUnicode) (second_unicode : second.IsUnicode) :
    DifferInSecrets (withPassword first) (withPassword second) := by
  have named : Text.lower "RPAAS_PASSWORD" = "rpaas_password" := by decide +kernel
  refine ⟨Environment.AgreeExcept.rfl.cons (.inl named), ?_, ?_⟩
  · have value (password : Text) : (withPassword password).setting? "rpaas_password" = some password := by
      rw [Environment.setting?_eq_under, withPassword, Environment.under_cons_of_eq named,
        show Environment.under [("RPAAS_USER", "user"), ("RPAAS_URL", "http://rpaas.test")] "rpaas_password" = [] by
          decide +kernel]
      rfl
    rw [value, value]
    exact .other first_nonempty second_nonempty first_unicode second_unicode
  · have unnamed : Text.lower "RPAAS_PASSWORD" ≠ "tsuru_token" := by
      rw [named]
      decide
    rw [Environment.setting?_eq_under, Environment.setting?_eq_under, withPassword, withPassword,
      Environment.under_cons_of_ne unnamed, Environment.under_cons_of_ne unnamed]
    exact .same _

theorem removal_confidential :
    (run { answering 204 with environment := withPassword "first" } plainRemoval).Alike
        (run { answering 204 with environment := withPassword "second" } plainRemoval) ∧
      (run { answering 204 with environment := withPassword "first" } plainRemoval).requests.map
          (fun request => request.authorization) = [some ("Basic dXNlcjpmaXJzdA==" : Text)] ∧
      (run { answering 204 with environment := withPassword "second" } plainRemoval).requests.map
          (fun request => request.authorization) = [some ("Basic dXNlcjpzZWNvbmQ=" : Text)] := by
  refine ⟨run_confidential ?_ (answering 204) plainRemoval, by decide +kernel, by decide +kernel⟩
  exact differInSecrets_withPassword (by decide) (by decide) (by decide) (by decide)

/-- A password that has no encoding cannot be sent, and the exit status tells. -/
theorem unsendable_password_tells : ¬ ∀ first second : Text, first ≠ [] → second ≠ [] →
    (run { answering 204 with environment := withPassword first } plainRemoval).ending.status =
      (run { answering 204 with environment := withPassword second } plainRemoval).ending.status := by
  intro untold
  have same := untold [.surrogate 0x4FF] "second" (by decide) (by decide)
  revert same
  decide +kernel

end CommandLine

end ProxyControl
