import PtyShell.FileTree
import PtyShell.Proofs.Config.Standard
import PtyShell.Proofs.Utf8

/-! # Which source decides a setting

Each setting is decided on its own: by its variable if that is not empty, else by the file, else by
its default. Only values of the file that nothing replaces can be refused, and all of those are. -/

namespace PtyShell

namespace Config

/-- What is found of a setting that has a value supplied, or else a value given to be checked, or
else its default. -/
def decided {α : Type} (supplied : Option α) (given : Option Json) (default : α)
    (check : Json → Except ProblemKind α) : Except ProblemKind α :=
  match supplied with
  | some value => .ok value
  | none =>
    match given with
    | some value => check value
    | none => .ok default

def suppliedText (environ : Env) (source : String) : Option String :=
  if environ.getD source = "" then none else some (environ.getD source)

def suppliedInteger (environ : Env) (source : String) : Except Fault (Option Int) :=
  match suppliedText environ source with
  | none => .ok none
  | some text => (integer text).map some

/-- What is found of each setting for an environment that supplies these dimensions, and a file. -/
def decisions (types : LaxTypes) (environ : Env) (file : Members) (rows cols : Option Int) :
    Verdicts where
  rows := decided rows (Json.member? (termMembers file) "rows") 24 types.integer
  cols := decided cols (Json.member? (termMembers file) "cols") 80 types.integer
  termType := decided (suppliedText environ "SHELLEXEC_TERM")
    (Json.member? (termMembers file) "term_type") "xterm-256color" types.text
  shell := decided ((suppliedText environ "SHELLEXEC_SHELL").map some) (Json.member? file "shell")
    none types.optionalText
  lang := decided (suppliedText environ "SHELLEXEC_LANG") (Json.member? file "lang") "en_US.UTF-8"
    types.text

section Merging

def put (name : String) (value : Option Json) (members : Members) : Members :=
  match value with
  | none => members
  | some value => Json.setMember name value members

theorem member?_put (name : String) (value : Option Json) (members : Members) (other : String) :
    Json.member? (put name value members) other =
      if other = name then value.or (Json.member? members other)
      else Json.member? members other := by
  cases value with
  | none => exact (ite_self _).symm
  | some value => exact Json.member?_setMember name value members other

theorem put_eq_nil {name : String} {value : Option Json} {members : Members}
    (empty : put name value members = []) : members = [] := by
  cases value with
  | none => exact empty
  | some value =>
      cases members with
      | nil => rfl
      | cons member rest =>
          obtain ⟨other, old⟩ := member
          by_cases found : other = name <;> simp [put, Json.setMember, found] at empty

theorem overrideTerm_text (environ : Env) (source name : String) (members : Members) :
    overrideTerm environ source name readText (.obj members) =
      .ok (.obj (put name ((suppliedText environ source).map .str) members)) := by
  unfold overrideTerm suppliedText
  by_cases empty : environ.getD source = ""
  · simp only [empty, if_true]
    rfl
  · simp only [empty, if_false]
    rfl

theorem overrideTerm_integer (environ : Env) (source name : String) (members : Members) :
    overrideTerm environ source name readInteger (.obj members) =
      (suppliedInteger environ source).map fun value =>
        .obj (put name (value.map .int) members) := by
  unfold overrideTerm suppliedInteger suppliedText readInteger
  by_cases empty : environ.getD source = ""
  · simp only [empty, if_true]
    rfl
  · simp only [empty, if_false]
    cases integer (environ.getD source) <;> rfl

theorem overrideMember_eq (environ : Env) (source name : String) (file : Members) :
    overrideMember environ source name file =
      put name ((suppliedText environ source).map .str) file := by
  unfold overrideMember suppliedText
  by_cases empty : environ.getD source = ""
  · simp only [empty, if_true]
    rfl
  · simp only [empty, if_false]
    rfl

def overlaidTerm (environ : Env) (file : Members) (rows cols : Option Int) : Members :=
  put "cols" (cols.map .int) (put "rows" (rows.map .int)
    (put "term_type" ((suppliedText environ "SHELLEXEC_TERM").map .str) (termMembers file)))

theorem mergedTerm_eq {file : Members} (term : HasTerm file) (environ : Env) :
    mergedTerm environ file = (do
      let rows ← suppliedInteger environ "SHELLEXEC_ROWS"
      let cols ← suppliedInteger environ "SHELLEXEC_COLS"
      return .obj (overlaidTerm environ file rows cols)) := by
  have start : (Json.member? file "term").getD (.obj []) = .obj (termMembers file) := by
    unfold termMembers
    cases held : Json.member? file "term" with
    | none => rfl
    | some value =>
        obtain ⟨members, rfl⟩ := term value held
        rfl
  unfold mergedTerm overlaidTerm
  simp only [start, overrideTerm_text]
  show overrideTerm _ _ _ _ _ >>= _ = _
  rw [overrideTerm_integer]
  cases suppliedInteger environ "SHELLEXEC_ROWS" with
  | error fault => rfl
  | ok rows =>
      show overrideTerm _ _ _ _ _ = _
      rw [overrideTerm_integer]
      cases suppliedInteger environ "SHELLEXEC_COLS" <;> rfl

def withTerm (term file : Members) : Members :=
  if term.isEmpty then file else Json.setMember "term" (.obj term) file

def overlaid (environ : Env) (term file : Members) : Members :=
  put "lang" ((suppliedText environ "SHELLEXEC_LANG").map .str)
    (put "shell" ((suppliedText environ "SHELLEXEC_SHELL").map .str) (withTerm term file))

theorem merged_eq {file : Members} (term : HasTerm file) (environ : Env) :
    merged environ file = (do
      let rows ← suppliedInteger environ "SHELLEXEC_ROWS"
      let cols ← suppliedInteger environ "SHELLEXEC_COLS"
      return overlaid environ (overlaidTerm environ file rows cols) file) := by
  unfold merged
  rw [mergedTerm_eq term]
  cases suppliedInteger environ "SHELLEXEC_ROWS" with
  | error fault => rfl
  | ok rows =>
      cases suppliedInteger environ "SHELLEXEC_COLS" with
      | error fault => rfl
      | ok cols =>
          show Except.ok (overrideMember environ _ _ (overrideMember environ _ _ _)) = Except.ok _
          rw [overrideMember_eq, overrideMember_eq]
          unfold overlaid withTerm Json.isSet
          cases overlaidTerm environ file rows cols <;> rfl

theorem member?_overlaid (environ : Env) (term file : Members) :
    Json.member? (overlaid environ term file) "shell" =
        ((suppliedText environ "SHELLEXEC_SHELL").map .str).or (Json.member? file "shell") ∧
      Json.member? (overlaid environ term file) "lang" =
        ((suppliedText environ "SHELLEXEC_LANG").map .str).or (Json.member? file "lang") ∧
      Json.member? (overlaid environ term file) "term" =
        if term.isEmpty then Json.member? file "term" else some (.obj term) := by
  unfold overlaid withTerm
  simp only [member?_put]
  cases term.isEmpty <;> simp [Json.member?_setMember]

theorem field_decided {α : Type} {members : Members} {name : String} {given : Option Json}
    {supplied : Option α} (encode : α → Json) {check : Json → Except ProblemKind α}
    (reads : ∀ value, check (encode value) = .ok value)
    (merged : Json.member? members name = (supplied.map encode).or given) (default : α) :
    field members name default check = decided supplied given default check := by
  unfold field decided
  rw [merged]
  cases supplied with
  | some value => exact reads value
  | none => cases given <;> rfl

theorem termMembers_overlaid {file : Members} (environ : Env) (rows cols : Option Int) :
    termMembers (overlaid environ (overlaidTerm environ file rows cols) file) =
      overlaidTerm environ file rows cols := by
  obtain ⟨_, _, found⟩ := member?_overlaid environ (overlaidTerm environ file rows cols) file
  by_cases empty : overlaidTerm environ file rows cols = []
  · -- Nothing was supplied, and the file has no settings or an empty object of them.
    have none : termMembers file = [] := put_eq_nil (put_eq_nil (put_eq_nil empty))
    rw [empty] at found ⊢
    unfold termMembers at none ⊢
    rw [found]
    exact none
  · have some : (overlaidTerm environ file rows cols).isEmpty = false := by simpa using empty
    unfold termMembers
    rw [found, some]
    rfl

theorem overlaid_hasTerm {file : Members} (hasTerm : HasTerm file) (environ : Env)
    (term : Members) : HasTerm (overlaid environ term file) := by
  intro value held
  rw [(member?_overlaid environ term file).2.2] at held
  split at held
  · exact hasTerm value held
  · exact ⟨term, (Option.some.inj held).symm⟩

theorem verdicts_overlaid (types : LaxTypes) (environ : Env) (file : Members)
    (rows cols : Option Int) :
    types.verdicts (overlaid environ (overlaidTerm environ file rows cols) file) =
      decisions types environ file rows cols := by
  obtain ⟨shell, lang, _⟩ := member?_overlaid environ (overlaidTerm environ file rows cols) file
  have term := @termMembers_overlaid file environ rows cols
  have rowsFound := @field_decided Int (overlaidTerm environ file rows cols) "rows"
    (Json.member? (termMembers file) "rows") rows .int types.integer types.integer_int
    (by simp [overlaidTerm, member?_put]) 24
  have colsFound := @field_decided Int (overlaidTerm environ file rows cols) "cols"
    (Json.member? (termMembers file) "cols") cols .int types.integer types.integer_int
    (by simp [overlaidTerm, member?_put]) 80
  have typeFound := @field_decided String (overlaidTerm environ file rows cols) "term_type"
    (Json.member? (termMembers file) "term_type") (suppliedText environ "SHELLEXEC_TERM") .str
    types.text types.text_str (by simp [overlaidTerm, member?_put]) "xterm-256color"
  have shellGiven : Json.member?
      (overlaid environ (overlaidTerm environ file rows cols) file) "shell" =
        (((suppliedText environ "SHELLEXEC_SHELL").map some).map textJson).or
          (Json.member? file "shell") := by
    rw [shell, Option.map_map]
    rfl
  have shellFound := field_decided textJson types.optionalText_textJson shellGiven none
  have langFound := field_decided .str types.text_str lang "en_US.UTF-8"
  unfold LaxTypes.verdicts decisions
  rw [term, rowsFound, colsFound, typeFound, shellFound, langFound]

theorem ofSources_merged {file : Members} (hasTerm : HasTerm file)
    (validate : Json → Except Fault Config) (environ : Env) :
    ofSources validate environ (.obj file) = (do
      let rows ← suppliedInteger environ "SHELLEXEC_ROWS"
      let cols ← suppliedInteger environ "SHELLEXEC_COLS"
      validate (.obj (overlaid environ (overlaidTerm environ file rows cols) file))) := by
  unfold ofSources members
  show merged environ file >>= _ = _
  rw [merged_eq hasTerm]
  cases suppliedInteger environ "SHELLEXEC_ROWS" with
  | error fault => rfl
  | ok rows => cases suppliedInteger environ "SHELLEXEC_COLS" <;> rfl

end Merging

section Loading

variable {services : Services} {types : LaxTypes} {path : Option String} {file : Members}
  {host after : Host}

theorem integer_error {text : String} {fault : Fault} (refused : integer text = .error fault) :
    fault = .badInteger text ∨ ∃ count, fault = .tooManyDigits count := by
  unfold integer at refused
  cases read : Text.scriptInt text.toList with
  | ok value => simp [read] at refused
  | error reason =>
      simp only [read] at refused
      cases reason with
      | malformed =>
          cases refused
          exact Or.inl rfl
      | tooManyDigits count =>
          cases refused
          exact Or.inr ⟨count, rfl⟩

theorem suppliedInteger_error {environ : Env} {source : String} {fault : Fault} :
    suppliedInteger environ source = .error fault ↔
      environ.getD source ≠ "" ∧ integer (environ.getD source) = .error fault := by
  unfold suppliedInteger suppliedText
  by_cases empty : environ.getD source = ""
  · simp [empty]
  · cases read : integer (environ.getD source) <;> simp [empty, read, Except.map]

def dimensionSources : List String := ["SHELLEXEC_ROWS", "SHELLEXEC_COLS"]

/-- How a configuration is loaded from the members of a file that was read, once the variables of
the environment file were added. -/
structure Loads (services : Services) (types : LaxTypes) (path : Option String) (file : Members)
    (host after : Host) : Prop where
  /-- A dimension in the environment that is no integer is refused, whatever the file has. -/
  refuses : ∀ source ∈ dimensionSources, ∀ refusal, after.environ.getD source ≠ "" →
    integer (after.environ.getD source) = .error refusal →
      ∃ other ∈ dimensionSources, ∃ fault, integer (after.environ.getD other) = .error fault ∧
        (fault = .badInteger (after.environ.getD other) ∨ ∃ count, fault = .tooManyDigits count) ∧
          (loadWith services path).run host = .error fault after
  /-- Otherwise each setting is decided on its own, and every one that is not valid is reported. -/
  decides : ∀ rows cols, suppliedInteger after.environ "SHELLEXEC_ROWS" = .ok rows →
    suppliedInteger after.environ "SHELLEXEC_COLS" = .ok cols →
      (∀ config, (loadWith services path).run host = .ok config after ↔
        (decisions types after.environ file rows cols).Gives config) ∧
      (∀ problems, (loadWith services path).run host = .error (.badModel .config problems) after ↔
        problems = (decisions types after.environ file rows cols).problems ∧ problems ≠ []) ∧
      ((decisions types after.environ file rows cols).problems = [] →
        ∃ config, (decisions types after.environ file rows cols).Gives config)

theorem loadWith_value {value : Json} (given : fileValue host path = .ok value)
    (only : OnlyEnvironment services.addVariables host)
    (loaded : services.addVariables.run host = .ok () after) :
    (loadWith services path).run host =
      (Sys.ofExcept (ofSources services.validate after.environ value)).run after := by
  rw [loadWith_run loaded only, given]
  rfl

theorem loadWith_unread {fault : Fault} (unread : fileValue host path = .error fault)
    (only : OnlyEnvironment services.addVariables host)
    (loaded : services.addVariables.run host = .ok () after) :
    (loadWith services path).run host = .error fault after := by
  rw [loadWith_run loaded only, unread]
  rfl

theorem loadWith_loads (lax : IsLax types services.validate)
    (only : OnlyEnvironment services.addVariables host) (hasTerm : HasTerm file)
    (given : fileValue host path = .ok (.obj file))
    (loaded : services.addVariables.run host = .ok () after) :
    Loads services types path file host after := by
  have run := loadWith_value given only loaded
  rw [ofSources_merged hasTerm] at run
  refine ⟨?_, ?_⟩
  · intro source member refusal some refused
    have supplied := suppliedInteger_error.mpr ⟨some, refused⟩
    cases rows : suppliedInteger after.environ "SHELLEXEC_ROWS" with
    | error fault =>
        rw [rows] at run
        obtain ⟨_, read⟩ := suppliedInteger_error.mp rows
        exact ⟨_, List.mem_cons_self, fault, read, integer_error read, run⟩
    | ok dimension =>
        -- The rows are read before the columns, so it is the columns that are refused.
        have second : source = "SHELLEXEC_COLS" := by
          rcases List.mem_cons.mp member with rfl | rest
          · rw [supplied] at rows
            cases rows
          · exact List.mem_singleton.mp rest
        subst second
        rw [rows, supplied] at run
        exact ⟨_, member, refusal, refused, integer_error refused, run⟩
  · intro rows cols suppliedRows suppliedCols
    rw [suppliedRows, suppliedCols] at run
    have found := verdicts_overlaid types after.environ file rows cols
    have merged := overlaid_hasTerm hasTerm after.environ
      (overlaidTerm after.environ file rows cols)
    have accepted {config : Config}
        (gives : (decisions types after.environ file rows cols).Gives config) :
        (loadWith services path).run host = .ok config after := by
      rw [← found] at gives
      rw [run]
      show (Sys.ofExcept (services.validate _)).run after = _
      rw [lax.accepts merged gives]
      rfl
    have rejected (some : (decisions types after.environ file rows cols).problems ≠ []) :
        (loadWith services path).run host =
          .error (.badModel .config (decisions types after.environ file rows cols).problems)
            after := by
      rw [← found] at some ⊢
      rw [run]
      show (Sys.ofExcept (services.validate _)).run after = _
      rw [lax.rejects merged some]
      rfl
    refine ⟨?_, ?_, Verdicts.gives_of_problems⟩
    · intro config
      refine ⟨?_, accepted⟩
      intro ran
      by_cases clean : (decisions types after.environ file rows cols).problems = []
      · obtain ⟨other, gives⟩ := Verdicts.gives_of_problems clean
        rw [accepted gives] at ran
        cases ran
        exact gives
      · rw [rejected clean] at ran
        cases ran
    · intro problems
      constructor
      · intro ran
        by_cases clean : (decisions types after.environ file rows cols).problems = []
        · obtain ⟨config, gives⟩ := Verdicts.gives_of_problems clean
          rw [accepted gives] at ran
          cases ran
        · rw [rejected clean] at ran
          cases ran
          exact ⟨rfl, clean⟩
      · rintro ⟨rfl, some⟩
        exact rejected some

/-- Loading a configuration lets the environment, extended by the environment file, decide each
setting it names, then the file, then the defaults, unless the file exceeds the limits of its
reader. Variables that cannot be added are reported before anything else. -/
theorem load_decides {named : String → String → Prop} (lax : IsLax types services.validate)
    (adds : AddsMissing services.addVariables named host) (holds : Holds host path (.obj file))
    (hasTerm : HasTerm file) :
    (∀ fault after, services.addVariables.run host = .error fault after →
      (loadWith services path).run host = .error fault after) ∧
    ∀ after, services.addVariables.run host = .ok () after → Extends named host after ∧
      ((fileValue host path = .ok (.obj file) ∧ Loads services types path file host after) ∨
        ∃ fault, fileValue host path = .error fault ∧ ExceedsLimits fault ∧
          (loadWith services path).run host = .error fault after) := by
  constructor
  · intro fault after failed
    exact loadWith_unloaded failed
  · intro after loaded
    have grows := adds.extends
    rw [Sys.leaves_of_ok loaded] at grows
    refine ⟨grows, ?_⟩
    rcases holds.fileValue with given | ⟨fault, unread, exceeds⟩
    · exact .inl ⟨given, loadWith_loads lax adds.only hasTerm given loaded⟩
    · exact .inr ⟨fault, unread, exceeds, loadWith_unread unread adds.only loaded⟩

theorem ok_of_toOption {α : Type} {value : α} {fault : Type} {outcome : Except fault α}
    (read : outcome.toOption = some value) : outcome = .ok value := by
  cases outcome with
  | error fault => cases read
  | ok found => rw [Option.some.inj read]

def holding (text : List Char) (environ : List (String × String)) : Host :=
  { Host.plain with
    environ := Env.ofList environ
    dotenv := ""
    files := FileTree.system ⟨[("/c", .ok (.file false (Text.Utf8.encode text) none))]⟩ }

theorem holding_stat (text : List Char) (environ : List (String × String)) :
    (holding text environ).stat "/c" = .ok (.file false (Text.Utf8.encode text) none) := by
  have place : Path.location Host.plain.directory "/c" = "/c" := by decide
  refine Host.stat_ok.mpr ⟨by decide, ?_⟩
  unfold holding FileTree.system
  simp [place, FileTree.entryAt, Path.asksDirectory, Entry.isDirectory]

theorem holding_loaded (text : List Char) {environ : List (String × String)}
    (enabled : EnvFile.isDisabled (Env.ofList environ) = false) :
    Services.standard.addVariables.run (holding text environ) =
      .ok () (EnvFile.extended (holding text environ) (Env.ofList environ)) :=
  @EnvFile.load_empty (holding text environ) rfl enabled

theorem holding_limits (text : List Char) (environ : List (String × String)) :
    limits (holding text environ) = limits Host.plain := by
  unfold limits holding
  rfl

theorem holding_exists (text : List Char) (environ : List (String × String)) :
    (holding text environ).exists? "/c" = true :=
  Host.holds_iff.mpr ⟨_, holding_stat text environ, rfl⟩

theorem holding_opened (text : List Char) (environ : List (String × String)) :
    (holding text environ).readFile "/c" = .ok (Text.Utf8.encode text) := by
  unfold Host.readFile
  rw [holding_stat]

theorem holding_holds {text : List Char} {environ : List (String × String)} {value : Json}
    (ascii : text.all fun c => c.toNat < 0x80)
    (written : (Json.parse (Text.unifyNewlines text)).toOption = some value) :
    Holds (holding text environ) (some "/c") value :=
  .content (by decide) (holding_exists text environ) (holding_opened text environ)
    (Text.Utf8.decode_ascii ascii) (ok_of_toOption written)

def sample : Members :=
  [("term", .obj [("rows", .str "x"), ("cols", .str "132")]), ("lang", .str "C")]

def sampleText : String :=
  "\x7b\"term\": \x7b\"rows\": \"x\", \"cols\": \"132\"\x7d, \"lang\": \"C\"\x7d"

def sampleHost : Host :=
  { holding sampleText.toList [("SHELLEXEC_ROWS", "60"), ("SHELLEXEC_LANG", "")] with
    dotenv := "SHELLEXEC_ROWS=70\nSHELLEXEC_TERM=screen" }

theorem load_decides_sample :
    IsLax standardTypes Services.standard.validate ∧
      AddsMissing Services.standard.addVariables Valued sampleHost ∧
      Holds sampleHost (some "/c") (.obj sample) ∧ HasTerm sample ∧
      ∃ after, Services.standard.addVariables.run sampleHost = .ok () after ∧
        Loads .standard standardTypes (some "/c") sample sampleHost after ∧
          (load (some "/c")).run sampleHost = .ok ⟨⟨60, 132, "screen"⟩, none, "C"⟩ after := by
  have adds := standard_adds sampleHost
  have decoded : Text.Utf8.decode (Text.Utf8.encode sampleText.toList) = .ok sampleText.toList :=
    Text.Utf8.decode_ascii (by decide)
  have holds : Holds sampleHost (some "/c") (.obj sample) :=
    .content (by decide) rfl rfl decoded (ok_of_toOption (by decide +kernel))
  have given : fileValue sampleHost (some "/c") = .ok (.obj sample) :=
    ok_of_toOption (by decide +kernel)
  have hasTerm : HasTerm sample := by
    intro value held
    cases held
    exact ⟨_, rfl⟩
  obtain ⟨after, loaded, supplied⟩ :
      ∃ after, Services.standard.addVariables.run sampleHost = .ok () after ∧
        after.environ = Env.ofList
          [("SHELLEXEC_ROWS", "60"), ("SHELLEXEC_LANG", ""), ("SHELLEXEC_TERM", "screen")] :=
    ⟨_, rfl, rfl⟩
  obtain ⟨_, ⟨_, loads⟩ | ⟨fault, unread, _⟩⟩ :=
    (load_decides standard_isLax adds holds hasTerm).2 after loaded
  · have decides := loads.decides (some 60) none (by rw [supplied]; rfl) (by rw [supplied]; rfl)
    rw [supplied] at decides
    exact ⟨standard_isLax, adds, holds, hasTerm, after, loaded, loads,
      (decides.1 _).mpr ⟨rfl, rfl, rfl, rfl, rfl⟩⟩
  · rw [given] at unread
    cases unread

theorem unifyNewlines_eq {text : List Char} (unmarked : '\r' ∉ text) :
    Text.unifyNewlines text = text := by
  induction text with
  | nil => rfl
  | cons c rest ih =>
      rw [List.mem_cons, not_or] at unmarked
      unfold Text.unifyNewlines
      split
      · next none => cases none
      · next lines same => exact absurd (List.cons.inj same).1.symm unmarked.1
      · next other others _ same =>
          cases same
          rw [if_neg (Ne.symm unmarked.1), ih unmarked.2]

theorem nines_ascii (count : Nat) : (Json.nines count).all fun c => c.toNat < 0x80 := by
  simp [Json.nines, List.all_replicate]

theorem nines_unmarked (count : Nat) : '\r' ∉ Json.nines count := by
  simp [Json.nines, List.mem_replicate]

/-- A host with a file that has a number of so many digits, which no setting is called for. -/
def numbered (count : Nat) : Host :=
  holding (Json.nines count) []

theorem numbered_holds (count : Nat) :
    Holds (numbered (count + 1)) (some "/c") (Json.ninesValue (count + 1)) := by
  refine holding_holds (nines_ascii _) ?_
  rw [unifyNewlines_eq (nines_unmarked _), Json.parse, Json.parseWithin_nines count rfl]
  rfl

theorem numbered_refused {count : Nat} (many : Text.digitLimit < count + 1) :
    fileValue (numbered (count + 1)) (some "/c") = .error (.tooManyDigits (count + 1)) := by
  have refused : (limits Host.plain).refuseDigits (count + 1) = true := decide_eq_true many
  have read : fileValue (numbered (count + 1)) (some "/c") =
      decode (limits (numbered (count + 1))) (Text.Utf8.encode (Json.nines (count + 1))) :=
    fileValue_content (by decide) (holding_exists (Json.nines (count + 1)) [])
      (holding_opened (Json.nines (count + 1)) [])
  have parsed : Json.parseWithin (limits Host.plain) (Json.nines (count + 1)) = _ :=
    Json.parseWithin_nines count rfl
  rw [if_pos refused] at parsed
  rw [read, numbered, holding_limits]
  unfold decode
  rw [Text.Utf8.decode_ascii (nines_ascii _)]
  simp only
  rw [unifyNewlines_eq (nines_unmarked _), parsed]

theorem unnamed_gives (value : Json) :
    HasTerm [("x", value)] ∧
      (decisions standardTypes Env.empty [("x", value)] none none).Gives Config.default := by
  refine ⟨?_, rfl, rfl, rfl, rfl, rfl⟩
  intro term held
  cases held

/-- The file has nothing for any setting, but the defaults are not loaded. -/
theorem load_exceeds :
    ∃ file, Holds (numbered 4301) (some "/c") (.obj file) ∧ HasTerm file ∧
      (decisions standardTypes Env.empty file none none).Gives Config.default ∧
        ∃ after, Services.standard.addVariables.run (numbered 4301) = .ok () after ∧
          after.environ = Env.empty ∧
            (load (some "/c")).run (numbered 4301) = .error (.tooManyDigits 4301) after := by
  obtain ⟨hasTerm, gives⟩ := unnamed_gives (.int (Text.digitsValue (List.replicate 4301 9)))
  have loaded : Services.standard.addVariables.run (numbered 4301) =
      .ok () (EnvFile.extended (numbered 4301) Env.empty) := holding_loaded (Json.nines 4301) rfl
  exact ⟨_, numbered_holds 4300, hasTerm, gives, _, loaded, rfl,
    loadWith_unread (numbered_refused (by decide)) (standard_only _) loaded⟩

end Loading

end Config

end PtyShell
