import Weblog.CommandLine.Argument
import Weblog.Proofs.Settings

namespace Weblog.CommandLine

/-- If there is a result, it has the property. -/
def Yields (P : α → Prop) (x : Except Halt α) : Prop :=
  ∀ a, x = .ok a → P a

section

variable {P : α → Prop} {x : Except Halt α}

theorem yields_ok {a : α} (ha : P a) : Yields P (.ok a) := by
  rintro _ ⟨⟩
  exact ha

theorem yields_error (halt : Halt) : Yields P (.error halt) := by
  rintro _ ⟨⟩

theorem yields_self (x : Except Halt α) : Yields (fun a => x = .ok a) x :=
  fun _ h => h

theorem Yields.imp {R : α → Prop} (hx : Yields P x) (h : ∀ a, P a → R a) : Yields R x :=
  fun a ha => h a (hx a ha)

theorem Yields.and {R : α → Prop} (hx : Yields P x) (hx' : Yields R x) :
    Yields (fun a => P a ∧ R a) x :=
  fun a ha => ⟨hx a ha, hx' a ha⟩

theorem Yields.bind {R : β → Prop} {f : α → Except Halt β} (hx : Yields P x)
    (hf : ∀ a, P a → Yields R (f a)) : Yields R (x >>= f) := by
  cases x with
  | error halt => exact yields_error halt
  | ok a => exact hf a (hx a rfl)

end

theorem yields_readHours (text : String) : Yields (fun n => 1 ≤ n) (readHours text) := by
  rw [readHours]
  split
  · split
    · rename_i hpositive
      exact yields_ok hpositive
    · exact yields_error _
  · exact yields_error _

theorem yields_readBounded (least greatest : Nat) (text : String) :
    Yields (fun n => least ≤ n ∧ n ≤ greatest) (readBounded least greatest text) := by
  rw [readBounded]
  split
  · split
    · rename_i hbounds
      exact yields_ok (by omega)
    · exact yields_error _
  · exact yields_error _

/-- The numbers that have been chosen are within the bounds of the settings. -/
structure Choices.InRange (c : Choices) : Prop where
  tokenHours : ∀ n ∈ c.tokenHours, 1 ≤ n
  hashCost : ∀ n ∈ c.hashCost, Settings.leastHashCost ≤ n ∧ n ≤ Settings.greatestHashCost

namespace Choices

variable {c : Choices}

theorem inRange_none : InRange .none :=
  ⟨nofun, nofun⟩

theorem InRange.set (hc : c.InRange) (o : Opt) (text : String) : Yields InRange (c.set o text) := by
  cases o with
  | port =>
      exact (yields_readBounded 0 65535 text).bind fun _ _ => yields_ok { hc with }
  | tokenHours =>
      refine (yields_readHours text).bind fun n hn => yields_ok { hc with tokenHours := ?_ }
      rintro _ ⟨⟩
      exact hn
  | hashCost =>
      refine (yields_readBounded _ _ text).bind fun n hn => yields_ok { hc with hashCost := ?_ }
      rintro _ ⟨⟩
      exact hn
  | logFormat => exact (yields_self _).bind fun _ _ => yields_ok { hc with }
  | _ => exact yields_ok { hc with }

theorem InRange.setOnce (hc : c.InRange) (o : Opt) (text : String) :
    Yields InRange (c.setOnce o text) := by
  rw [Choices.setOnce]
  split
  · exact yields_error _
  · exact hc.set o text

theorem InRange.raise (hc : c.InRange) : Yields InRange c.raise :=
  (yields_self _).bind fun _ _ => yields_ok { hc with }

end Choices

namespace Reader

/-- What has been read so far is within the bounds. -/
def InRange (r : Reader) : Prop :=
  r.choices.InRange

variable {r : Reader}

theorem InRange.settle (hr : r.InRange) : Yields Choices.InRange r.settle := by
  rw [Reader.settle]
  split
  · exact yields_ok hr
  · exact yields_error _
  · exact hr.setOnce _ _

theorem InRange.attach (hr : r.InRange) (o : Opt) (text : String) :
    Yields InRange (r.attach o text) :=
  hr.settle.bind fun _ hc => (hc.setOnce o text).bind fun _ hc => yields_ok hc

theorem InRange.expect (hr : r.InRange) (o : Opt) : Yields InRange (r.expect o) :=
  hr.settle.bind fun _ hc => yields_ok hc

theorem InRange.flag (hr : r.InRange) (isLong : Bool) (named : Named) :
    Yields InRange (r.flag isLong named) := by
  cases named with
  | option o => exact hr.expect o
  | verbose => exact hr.settle.bind fun _ hc => hc.raise.bind fun _ hc => yields_ok hc
  | help => exact hr.settle.bind fun _ _ => yields_error .help
  | version => exact hr.settle.bind fun _ _ => yields_error (.version isLong)

theorem InRange.long (hr : r.InRange) (cs : List Char) : Yields InRange (r.long cs) := by
  simp only [Reader.long]
  split
  · exact yields_error _
  · exact hr.attach _ _
  · exact yields_error _
  · exact hr.flag true _

theorem InRange.letters (hr : r.InRange) (cs : List Char) : Yields InRange (r.letters cs) := by
  induction cs generalizing r with
  | nil => exact yields_ok hr
  | cons letter rest ih =>
      unfold Reader.letters
      split
      · exact yields_error _
      · exact hr.expect _
      · exact hr.attach _ _
      · exact hr.attach _ _
      · exact (hr.flag false _).bind fun _ hr => ih hr

theorem InRange.value (hr : r.InRange) (text : String) : Yields InRange (r.value text) := by
  rw [Reader.value]
  split
  · exact yields_ok hr
  · exact yields_error _

theorem InRange.all (hr : r.InRange) (arguments : List String) :
    Yields Choices.InRange (r.all arguments) := by
  induction arguments generalizing r with
  | nil => exact hr.settle
  | cons argument rest ih =>
      rw [Reader.all]
      split
      · split
        · exact hr.settle
        · exact yields_error _
      · exact (hr.long _).bind fun _ hr => ih hr
      · exact (hr.letters _).bind fun _ hr => ih hr
      · exact (hr.value _).bind fun _ hr => ih hr

end Reader

/-- The option takes a text as it is written. -/
def Opt.isText : Opt → Bool
  | host | databasePath | origins | environment | tokenSecret => true
  | port | tokenHours | hashCost | logFormat => false

/-- The text that has been chosen for the option. -/
def Choices.text? (c : Choices) : Opt → Option String
  | .host => c.host
  | .databasePath => c.databasePath
  | .origins => c.origins
  | .environment => c.environment
  | .tokenSecret => c.tokenSecret
  | _ => Option.none

/-- The value of the first variable for the option that is set. -/
def valueOf? (lookup : String → Option String) (sources : List (String × Opt)) (o : Opt) :
    Option String :=
  sources.findSome? fun source => if source.2 = o then lookup source.1 else none

section

variable {o : Opt}

theorem Choices.has_eq_isSome (ho : o.isText = true) (c : Choices) :
    c.has o = (c.text? o).isSome := by
  cases o <;> first | rfl | exact nomatch ho

theorem Choices.yields_set (ho : o.isText = true) (c : Choices) (o' : Opt) (text : String) :
    Yields (fun c' => c'.text? o = if o' = o then some text else c.text? o) (c.set o' text) := by
  cases o' with
  | port | tokenHours | hashCost | logFormat =>
      refine (yields_self _).bind fun _ _ => yields_ok ?_
      cases o <;> first | rfl | exact nomatch ho
  | _ =>
      refine yields_ok ?_
      cases o <;> rfl

variable {lookup : String → Option String} {c : Choices}

theorem valueOf?_nil : valueOf? lookup [] o = none := rfl

theorem valueOf?_cons (source : String × Opt) (sources : List (String × Opt)) :
    valueOf? lookup (source :: sources) o =
      (if source.2 = o then lookup source.1 else none).or (valueOf? lookup sources o) := by
  rw [valueOf?, List.findSome?_cons]
  cases (if source.2 = o then lookup source.1 else none) <;> rfl

theorem Choices.InRange.addVariable (hc : c.InRange) (source : String × Opt) :
    Yields InRange (addVariable lookup c source) := by
  rw [CommandLine.addVariable]
  split
  · exact hc.set _ _
  · exact yields_ok hc

theorem yields_addVariable (ho : o.isText = true) (c : Choices) (source : String × Opt) :
    Yields (fun c' => c'.text? o = (c.text? o).or (valueOf? lookup [source] o))
      (addVariable lookup c source) := by
  have hvariable : valueOf? lookup [source] o = if source.2 = o then lookup source.1 else none := by
    rw [valueOf?_cons, valueOf?_nil, Option.or_none]
  rw [addVariable, hvariable]
  by_cases hsource : source.2 = o
  · rw [if_pos hsource, hsource, c.has_eq_isSome ho]
    cases htext : c.text? o with
    | some text => exact yields_ok htext
    | none =>
        cases hlookup : lookup source.1 with
        | none => exact yields_ok htext
        | some text =>
            refine (c.yields_set ho o text).imp fun c' hc' => ?_
            rw [hc', if_pos rfl, Option.none_or]
  · rw [if_neg hsource, Option.or_none]
    split
    · refine (c.yields_set ho source.2 _).imp fun c' hc' => ?_
      rw [hc', if_neg hsource]
    · exact yields_ok rfl

theorem yields_addVariables (hc : c.InRange) (sources : List (String × Opt)) :
    Yields (fun c' => c'.InRange ∧ ∀ o : Opt, o.isText = true →
        c'.text? o = (c.text? o).or (valueOf? lookup sources o))
      (sources.foldlM (addVariable lookup) c) := by
  induction sources generalizing c with
  | nil => exact yields_ok ⟨hc, fun o _ => (Option.or_none).symm⟩
  | cons source sources ih =>
      rw [List.foldlM_cons]
      refine ((hc.addVariable source).and (yields_self _)).bind fun c₁ h₁ => ?_
      refine (ih h₁.1).imp fun c' hc' => ⟨hc'.1, fun o ho => ?_⟩
      rw [hc'.2 o ho, yields_addVariable ho c source c₁ h₁.2, valueOf?_cons, valueOf?_cons,
        valueOf?_nil, Option.or_none, Option.or_assoc]

theorem yields_addVerbosity (hc : c.InRange) :
    Yields (fun c' => c'.InRange ∧ ∀ o : Opt, c'.text? o = c.text? o) (addVerbosity lookup c) := by
  rw [addVerbosity]
  split
  · refine (yields_self _).bind fun _ _ => yields_ok ⟨{ hc with }, fun o => ?_⟩
    cases o <;> rfl
  · exact yields_ok ⟨hc, fun _ => rfl⟩

end

/-- What is read from a command line in an environment: what the command line chooses, what the
variables add to it, and defaults. -/
theorem yields_read (lookup : String → Option String) (arguments : List String) :
    Yields (fun a => ∃ c c' : Choices, Reader.all ⟨.none, none⟩ arguments = .ok c ∧ c'.InRange ∧
        (∀ o : Opt, o.isText = true →
          c'.text? o = (c.text? o).or (valueOf? lookup optionVariables o)) ∧
        a = c'.withDefaults) (read lookup arguments) := by
  have hstart : Reader.InRange ⟨.none, none⟩ := Choices.inRange_none
  refine ((hstart.all arguments).and (yields_self _)).bind fun c ⟨hc, hall⟩ => ?_
  refine (yields_addVariables hc optionVariables).bind fun c₁ ⟨h₁, htext⟩ => ?_
  refine (yields_addVerbosity h₁).bind fun c₂ ⟨h₂, hkept⟩ => ?_
  refine ((h₂.addVariable _).and (yields_self _)).bind fun c₃ ⟨h₃, hlast⟩ => yields_ok ?_
  refine ⟨c, c₃, hall, h₃, fun o ho => ?_, rfl⟩
  have hnone : valueOf? lookup [("CONDUIT_LOG_FORMAT", .logFormat)] o = none := by
    rw [valueOf?_cons, valueOf?_nil, if_neg, Option.or_none]
    rintro rfl
    exact nomatch ho
  rw [yields_addVariable ho c₂ _ c₃ hlast, hnone, Option.or_none, hkept, htext o ho]

namespace Arguments

variable (a : Arguments)

theorem settings_tokenSecret :
    a.settings.tokenSecret = a.tokenSecret.getD Settings.placeholderSecret := by
  rw [settings]
  cases a.tokenSecret <;> rfl

theorem settings_environment : a.settings.environment = a.environment := by
  rw [settings]
  cases a.tokenSecret <;> rfl

theorem settings_hashCost : a.settings.hashCost = a.hashCost := by
  rw [settings]
  cases a.tokenSecret <;> rfl

theorem settings_tokenLifetime : a.settings.tokenLifetime = Settings.hoursSpan a.tokenHours := by
  rw [settings]
  cases a.tokenSecret <;> rfl

theorem refusal?_settings (hhours : 1 ≤ a.tokenHours)
    (hleast : Settings.leastHashCost ≤ a.hashCost)
    (hgreatest : a.hashCost ≤ Settings.greatestHashCost) :
    a.settings.refusal? = if a.tokenSecret = some "" then some .noSecret
      else if Settings.eqIgnoringCase a.environment "production" = true ∧
          (a.tokenSecret = none ∨ a.tokenSecret = some Settings.placeholderSecret) then
        some .placeholderInProduction
      else none := by
  have hlifetime : 1 ≤ a.settings.tokenLifetime.seconds := by
    have hword : greatestWord = 18446744073709551615 := rfl
    simp only [a.settings_tokenLifetime, Settings.hoursSpan]
    omega
  have hempty : a.settings.tokenSecret = "" ↔ a.tokenSecret = some "" := by
    rw [a.settings_tokenSecret]
    cases a.tokenSecret with
    | none => simp [Settings.placeholderSecret]
    | some secret => simp
  have hplaceholder : a.settings.tokenSecret = Settings.placeholderSecret ↔
      a.tokenSecret = none ∨ a.tokenSecret = some Settings.placeholderSecret := by
    rw [a.settings_tokenSecret]
    cases a.tokenSecret <;> simp
  rw [Settings.refusal?_of_bounds hlifetime (a.settings_hashCost ▸ hleast)
    (a.settings_hashCost ▸ hgreatest)]
  simp only [Settings.isProduction, a.settings_environment, hempty, hplaceholder]

end Arguments

theorem Choices.InRange.bounds {c : Choices} (hc : c.InRange) :
    1 ≤ c.withDefaults.tokenHours ∧ Settings.leastHashCost ≤ c.withDefaults.hashCost ∧
      c.withDefaults.hashCost ≤ Settings.greatestHashCost := by
  obtain ⟨hhours, hcost⟩ := hc
  rw [Choices.withDefaults]
  constructor
  · cases h : c.tokenHours with
    | none => exact (by decide : 1 ≤ Settings.defaultTokenHours)
    | some hours => exact hhours hours h
  · cases h : c.hashCost with
    | none =>
        exact (by decide : Settings.leastHashCost ≤ Settings.defaultHashCost ∧
          Settings.defaultHashCost ≤ Settings.greatestHashCost)
    | some cost => exact hcost cost h

/-- The settings of a command line that is accepted are refused if and only if the secret is empty,
or there is none but the one that everybody knows, and the service is in production. No number that
an option takes is a reason; the secret and the environment are those of the command line, else
those of the variables. -/
theorem settings_refused_iff (lookup : String → Option String) (arguments : List String)
    {a : Arguments} (ha : read lookup arguments = .ok a) :
    (a.settings.refusal?.isSome = true ↔
      a.tokenSecret = some "" ∨
        Settings.eqIgnoringCase a.environment "production" = true ∧
          (a.tokenSecret = none ∨ a.tokenSecret = some Settings.placeholderSecret)) ∧
    (∀ refusal ∈ a.settings.refusal?,
      refusal = .noSecret ∨ refusal = .placeholderInProduction) ∧
    ∃ c : Choices, Reader.all ⟨.none, none⟩ arguments = .ok c ∧
      a.tokenSecret = c.tokenSecret.or (lookup "CONDUIT_JWT_SECRET") ∧
      a.environment =
        (c.environment.or (lookup "CONDUIT_ENV")).getD Settings.defaultEnvironment := by
  obtain ⟨c, c', hall, hrange, htext, rfl⟩ := yields_read lookup arguments a ha
  obtain ⟨hhours, hleast, hgreatest⟩ := hrange.bounds
  have hsecret : c'.tokenSecret = c.tokenSecret.or (lookup "CONDUIT_JWT_SECRET") := by
    refine (htext .tokenSecret rfl).trans (congrArg _ ?_)
    simp [optionVariables, valueOf?_cons, valueOf?_nil]
  have henvironment : c'.environment = c.environment.or (lookup "CONDUIT_ENV") := by
    refine (htext .environment rfl).trans (congrArg _ ?_)
    simp [optionVariables, valueOf?_cons, valueOf?_nil]
  have hrefusal := c'.withDefaults.refusal?_settings hhours hleast hgreatest
  refine ⟨?_, ?_, c, hall, hsecret, congrArg (Option.getD · _) henvironment⟩
  · rw [hrefusal]
    split
    · rename_i hempty
      simp [hempty]
    · rename_i hsome
      split
      · rename_i hproduction
        simp [hproduction]
      · rename_i hother
        simp [hsome, hother]
  · rw [hrefusal]
    split
    · simp
    · split
      · simp
      · simp

namespace Sample

/-- A service in production, which is set up by options and variables and has no secret. -/
def arguments : List String := ["--jwt-expiry-hours=18446744073709551615", "-p", "0"]

def environment (name : String) : Option String :=
  [("CONDUIT_ENV", "Production"), ("CONDUIT_BCRYPT_COST", "31")].lookup name

def chosen : Arguments :=
  ⟨0, "::", "./data/conduit.db", "http://localhost:3000", "Production", none,
    18446744073709551615, 31, 0, .pretty⟩

theorem read_arguments : read environment arguments = .ok chosen := by
  rfl

end Sample

open Sample in
theorem settings_refused_iff_no_secret :
    read environment arguments = .ok chosen ∧ chosen.settings.refusal?.isSome = true ∧
      ∀ refusal ∈ chosen.settings.refusal?,
        refusal = .noSecret ∨ refusal = .placeholderInProduction := by
  obtain ⟨hiff, hreason, -⟩ := settings_refused_iff environment arguments read_arguments
  have hproduction : Settings.eqIgnoringCase chosen.environment "production" = true := by decide
  exact ⟨read_arguments, hiff.mpr (.inr ⟨hproduction, .inl rfl⟩), hreason⟩

end Weblog.CommandLine
