import BulkJobs.Proofs.Console.Performing
import BulkJobs.Proofs.Text.Reading
import Mathlib.Data.Set.List

/-!
# What the exit status says

The exit status is zero exactly when there is a client, the arguments are the words of a command
(`Asks`), that command is carried out (`Command.IsDone`), and what it has to say could be printed
(`IsPrinted`). It is one otherwise, with a complaint (`status_run`), as long as the program gets to
its end. An argument that is no text stops it before it looks at any argument, and standard output
that does not take a text stops it while it prints: then the runtime gives the status 101
(`unreadable_argument_panics`). What is written to standard error is taken to be written.
-/

set_option autoImplicit false
set_option relaxedAutoImplicit false

namespace BulkJobs.Console

open Http (Traffic)

/-! ### Reports that are printed -/

/-- Whether what a command has to say is nothing, or a text that standard output takes. A command
that fails says nothing there. -/
def IsPrinted (surroundings : Surroundings) (result : Except Failure Report) : Prop :=
  ∀ said, result = .ok said → said.output = "" ∨ surroundings.print said.output = .ok ()

theorem line_ne_empty (parts : List String) : line parts ≠ "" := by
  intro h
  rw [line, String.append_eq_empty_iff] at h
  exact absurd h.2 (by decide)

/-- How the program ends with the report of a command: done, with a complaint, in the middle of
printing, or with the failure of the command. These are all ends there are (`ends_ofReport`). -/
inductive Ends (surroundings : Surroundings) : Except Failure Report → Exit → Prop where
  | done {said : Report} (hprinted : said.output = "" ∨ surroundings.print said.output = .ok ())
      (hclean : said.complaint = none) :
      Ends surroundings (.ok said) { status := 0, output := said.output, errors := "" }
  | complained {said : Report} {complaint : String}
      (hprinted : said.output = "" ∨ surroundings.print said.output = .ok ())
      (hcomplaint : said.complaint = some complaint) :
      Ends surroundings (.ok said) (.failing said.output (line ["Error: ", complaint]))
  | unprinted {said : Report} {part : String} (hsome : said.output ≠ "")
      (hpart : surroundings.print said.output = .error part) :
      Ends surroundings (.ok said) (.panicking part "failed printing to stdout")
  | failed (failure : Failure) :
      Ends surroundings (.error failure) (.failing "" (line ["Error: ", failure.message]))

theorem ends_ofReport (surroundings : Surroundings) (result : Except Failure Report) :
    Ends surroundings result (.ofReport surroundings result) := by
  cases result with
  | error failure => exact .failed failure
  | ok said =>
    have hprinted : (said.output = "" ∨ surroundings.print said.output = .ok ()) →
        (if said.output.isEmpty then .ok () else surroundings.print said.output) = .ok () := by
      rintro (hempty | htaken)
      · rw [if_pos (String.isEmpty_iff.mpr hempty)]
      · rw [htaken, ite_self]
    unfold Exit.ofReport
    by_cases hempty : said.output = ""
    · simp only [hprinted (.inl hempty)]
      cases hcomplaint : said.complaint with
      | none => exact .done (.inl hempty) hcomplaint
      | some complaint => exact .complained (.inl hempty) hcomplaint
    · cases hpart : surroundings.print said.output with
      | error part =>
        simp only [if_neg (mt String.isEmpty_iff.mp hempty), hpart]
        exact .unprinted hempty hpart
      | ok =>
        simp only [hprinted (.inr hpart)]
        cases hcomplaint : said.complaint with
        | none => exact .done (.inr hpart) hcomplaint
        | some complaint => exact .complained (.inr hpart) hcomplaint

namespace Ends

variable {surroundings : Surroundings} {result : Except Failure Report} {exit : Exit}

theorem isPrinted_iff (h : Ends surroundings result exit) :
    IsPrinted surroundings result ↔ exit.status ≠ 101 := by
  cases h with
  | done hprinted | complained hprinted =>
    refine iff_of_true ?_ nofun
    rintro _ ⟨⟩
    exact hprinted
  | unprinted hsome hpart =>
    refine iff_of_false (fun hprinted ↦ ?_) (absurd rfl)
    obtain hempty | htaken := hprinted _ rfl
    · exact hsome hempty
    · rw [hpart] at htaken
      cases htaken
  | failed failure => exact iff_of_true nofun nofun

theorem status_eq_zero_iff (h : Ends surroundings result exit) :
    exit.status = 0 ↔
      (∃ said, result = .ok said ∧ said.complaint = none) ∧ IsPrinted surroundings result := by
  rw [h.isPrinted_iff]
  cases h with
  | done hprinted hclean => exact iff_of_true rfl ⟨⟨_, rfl, hclean⟩, nofun⟩
  | complained hprinted hcomplaint =>
    refine iff_of_false nofun ?_
    rintro ⟨⟨_, ⟨⟩, hclean⟩, -⟩
    rw [hcomplaint] at hclean
    cases hclean
  | unprinted hsome hpart => exact iff_of_false nofun fun hall ↦ hall.2 rfl
  | failed failure => exact iff_of_false nofun nofun

theorem errors_ne_empty (h : Ends surroundings result exit) (hstatus : exit.status ≠ 0) :
    (exit.status = 1 ∨ exit.status = 101) ∧ exit.errors ≠ "" := by
  cases h with
  | done => exact absurd rfl hstatus
  | complained | failed => exact ⟨.inl rfl, line_ne_empty _⟩
  | unprinted => exact ⟨.inr rfl, line_ne_empty _⟩

end Ends

/-- A query prints the pages of its result, or the part of them that standard output takes, or it
fails and prints nothing. -/
theorem ends_query {client : Client} {surroundings : Surroundings} {soql : String}
    {traffic : Traffic} {exit : Exit}
    (h : Ends surroundings (perform client surroundings (.query soql) traffic).1 exit) :
    (∃ pages, Queried client surroundings.clock { query := soql } traffic pages ∧
        (exit.status = 0 ∧ exit.output = joinPages (pages.map (·.csv)) ∨
          exit.status = 101 ∧
            surroundings.print (joinPages (pages.map (·.csv))) = .error exit.output)) ∨
      exit.status = 1 ∧ exit.output = "" := by
  simp only [perform, bind_pure_apply] at h
  cases hrun : (client.runQuery surroundings.clock { query := soql } traffic).1 with
  | error failure =>
    rw [hrun] at h
    cases h
    exact .inr ⟨rfl, rfl⟩
  | ok outcome =>
    rw [hrun] at h
    obtain ⟨job, _ | csv⟩ := outcome
    · cases h with
      | done hprinted hclean => cases hclean
      | complained => exact .inr ⟨rfl, rfl⟩
      | unprinted hsome => exact absurd rfl hsome
    · obtain ⟨pages, hqueried, rfl⟩ := queried_iff.mpr ⟨job, hrun⟩
      cases h with
      | done => exact .inl ⟨pages, hqueried, .inl ⟨rfl, rfl⟩⟩
      | complained hprinted hcomplaint => cases hcomplaint
      | unprinted hsome hpart => exact .inl ⟨pages, hqueried, .inr ⟨rfl, hpart⟩⟩

/-! ### Arguments -/

/-- Whether there is a client, and the arguments, as bytes, ask it for a command. -/
structure Asks (surroundings : Surroundings) (arguments : List Octets) (client : Client)
    (command : Command) : Prop where
  built : ClientBuilder.build {} surroundings.environment = .ok client
  worded : arguments = command.words.map Utf8.encode

theorem mapM_decode?_eq_some_iff {arguments : List Octets} {words : List String} :
    arguments.mapM Utf8.decode? = some words ↔ arguments = words.map Utf8.encode := by
  induction arguments generalizing words with
  | nil =>
    rw [List.mapM_nil, Option.pure_def, Option.some.injEq, eq_comm, eq_comm (a := []),
      List.map_eq_nil_iff]
  | cons argument arguments ih =>
    simp only [List.mapM_cons, Option.bind_eq_bind, Option.bind_eq_some_iff, ih,
      Utf8.decode?_eq_some_iff, Option.pure_def, Option.some.injEq]
    constructor
    · rintro ⟨word, rfl, words, rfl, rfl⟩
      rfl
    · intro h
      obtain ⟨word, words, rfl, hword, hwords⟩ := List.map_eq_cons_iff.mp h.symm
      exact ⟨word, hword, words, hwords.symm, rfl⟩

theorem mapM_decode?_eq_none_iff {arguments : List Octets} :
    arguments.mapM Utf8.decode? = none ↔
      ∃ argument ∈ arguments, ∀ word, Utf8.encode word ≠ argument := by
  have hrange : (∃ words : List String, words.map Utf8.encode = arguments) ↔
      ∀ argument ∈ arguments, ∃ word, Utf8.encode word = argument :=
    Set.ext_iff.mp (Set.range_list_map Utf8.encode) arguments
  rw [Option.eq_none_iff_forall_ne_some]
  simp only [ne_eq, mapM_decode?_eq_some_iff, eq_comm (a := arguments)]
  rw [← not_exists, hrange]
  push Not
  rfl

theorem ne_map_encode {arguments : List Octets}
    (h : ∃ argument ∈ arguments, ∀ word, Utf8.encode word ≠ argument) (words : List String) :
    arguments ≠ words.map Utf8.encode := by
  rintro rfl
  obtain ⟨_, hargument, hunread⟩ := h
  obtain ⟨word, -, hword⟩ := List.mem_map.mp hargument
  exact hunread word hword

theorem Asks.unique {surroundings : Surroundings} {arguments : List Octets}
    {client client' : Client} {command command' : Command}
    (h : Asks surroundings arguments client command)
    (h' : Asks surroundings arguments client' command') :
    client' = client ∧ command' = command := by
  have hclient : Except.ok client = .ok client' := h.built.symm.trans h'.built
  have hwords := List.map_injective_iff.mpr Utf8.encode_injective (h.worded.symm.trans h'.worded)
  cases hclient
  exact ⟨rfl, (Command.words_injective hwords).symm⟩

/-- A run stops at an argument that is no text, or ends before anything is sent, because there is no
client or nothing that is known is asked for, or ends as the report of the command says. -/
theorem run_cases (surroundings : Surroundings) (arguments : List Octets) (traffic : Traffic) :
    ((∃ argument ∈ arguments, ∀ word, Utf8.encode word ≠ argument) ∧
      run surroundings arguments traffic =
        (.panicking "" "an argument is not valid Unicode", traffic)) ∨
    (∃ words : List String, arguments = words.map Utf8.encode ∧
      (∀ client command, ¬Asks surroundings arguments client command) ∧
      ∃ errors, errors ≠ "" ∧ run surroundings arguments traffic = (.failing "" errors, traffic)) ∨
    ∃ client command, Asks surroundings arguments client command ∧
      run surroundings arguments traffic =
        (.ofReport surroundings (perform client surroundings command traffic).1,
          (perform client surroundings command traffic).2) := by
  cases hdecode : arguments.mapM Utf8.decode? with
  | none =>
    refine .inl ⟨mapM_decode?_eq_none_iff.mp hdecode, ?_⟩
    unfold run
    rw [hdecode]
    rfl
  | some words =>
    have hwords := mapM_decode?_eq_some_iff.mp hdecode
    have hcommand : ∀ {client : Client} {command : Command},
        Asks surroundings arguments client command → Command.parse? words = some command := by
      intro client command hasks
      have hsame := hwords.symm.trans hasks.worded
      exact Command.parse?_eq_some_iff.mpr
        (List.map_injective_iff.mpr Utf8.encode_injective hsame)
    right
    cases words with
    | nil =>
      refine .inl ⟨[], hwords, fun client command hasks ↦ ?_, usage, by decide, ?_⟩
      · cases hcommand hasks
      · unfold run
        rw [hdecode]
        rfl
    | cons word words =>
      cases hbuild : ClientBuilder.build {} surroundings.environment with
      | error failure =>
        have hrun : run surroundings arguments traffic =
            (.failing "" (line ["Error: ", failure.message] ++
              line ["Set SF_INSTANCE_URL and SF_ACCESS_TOKEN."]), traffic) := by
          unfold run
          rw [hdecode, hbuild]
          rfl
        refine .inl ⟨_, hwords, fun client command hasks ↦ ?_, _, fun hempty ↦ ?_, hrun⟩
        · have hbuilt := hasks.built
          rw [hbuild] at hbuilt
          cases hbuilt
        · exact line_ne_empty _ (String.append_eq_empty_iff.mp hempty).1
      | ok client =>
        cases hparse : Command.parse? (word :: words) with
        | none =>
          refine .inl ⟨_, hwords, fun client command hasks ↦ ?_, usage, by decide, ?_⟩
          · rw [hcommand hasks] at hparse
            cases hparse
          · unfold run
            rw [hdecode, hbuild]
            simp only [hparse]
            rfl
        | some command =>
          have hasked : word :: words = command.words := Command.parse?_eq_some_iff.mp hparse
          refine .inr ⟨client, command, ⟨hbuild, hasked ▸ hwords⟩, ?_⟩
          unfold run
          rw [hdecode, hbuild]
          simp only [hparse]
          rfl

/-! ### The exit status -/

/-- The exit status of a run tells whether everything was done that was asked for. It is zero when
there is a client, the arguments ask it for a command, the command is carried out, and what there is
to say is printed. It is 101, that of a program which stops in the middle, when an argument is no
text, or standard output does not take what there is to say. Otherwise it is one; and unless it is
zero, there is a complaint. Nothing is sent for what cannot be asked for. A query prints the pages
of its result when it succeeds, and nothing when it fails. -/
theorem status_run (surroundings : Surroundings) (arguments : List Octets) (traffic : Traffic) :
    ((run surroundings arguments traffic).1.status = 0 ↔
      ∃ client command, Asks surroundings arguments client command ∧
        command.IsDone client surroundings traffic ∧
        IsPrinted surroundings (perform client surroundings command traffic).1) ∧
    ((run surroundings arguments traffic).1.status = 101 ↔
      (∃ argument ∈ arguments, ∀ word, Utf8.encode word ≠ argument) ∨
        ∃ client command, Asks surroundings arguments client command ∧
          ¬IsPrinted surroundings (perform client surroundings command traffic).1) ∧
    ((run surroundings arguments traffic).1.status ≠ 0 →
      ((run surroundings arguments traffic).1.status = 1 ∨
        (run surroundings arguments traffic).1.status = 101) ∧
      (run surroundings arguments traffic).1.errors ≠ "") ∧
    ((∃ failure, ClientBuilder.build {} surroundings.environment = .error failure) ∨
        (∀ command : Command, arguments ≠ command.words.map Utf8.encode) ∨
        (∃ command : Command, arguments = command.words.map Utf8.encode ∧
          command.IsUnfit surroundings) →
      (run surroundings arguments traffic).2 = traffic) ∧
    ∀ soql, arguments = ["query", soql].map Utf8.encode →
      (∃ client pages, ClientBuilder.build {} surroundings.environment = .ok client ∧
        Queried client surroundings.clock { query := soql } traffic pages ∧
        ((run surroundings arguments traffic).1.status = 0 ∧
          (run surroundings arguments traffic).1.output = joinPages (pages.map (·.csv)) ∨
        (run surroundings arguments traffic).1.status = 101 ∧
          surroundings.print (joinPages (pages.map (·.csv))) =
            .error (run surroundings arguments traffic).1.output)) ∨
      (run surroundings arguments traffic).1.status = 1 ∧
        (run surroundings arguments traffic).1.output = "" := by
  rcases run_cases surroundings arguments traffic with
    ⟨hunread, hrun⟩ | ⟨words, hwords, hnot, errors, herrors, hrun⟩ | ⟨client, command, hasks, hrun⟩
  · rw [hrun]
    refine ⟨iff_of_false nofun ?_, iff_of_true rfl (.inl hunread),
      fun _ ↦ ⟨.inr rfl, line_ne_empty _⟩, fun _ ↦ rfl,
      fun soql hsoql ↦ absurd hsoql (ne_map_encode hunread _)⟩
    rintro ⟨client, command, hasks, -⟩
    exact ne_map_encode hunread _ hasks.worded
  · rw [hrun]
    refine ⟨iff_of_false nofun ?_, iff_of_false nofun ?_, fun _ ↦ ⟨.inl rfl, herrors⟩, fun _ ↦ rfl,
      fun _ _ ↦ .inr ⟨rfl, rfl⟩⟩
    · rintro ⟨client, command, hasks, -⟩
      exact hnot client command hasks
    · rintro (hunread | ⟨client, command, hasks, -⟩)
      · exact ne_map_encode hunread words hwords
      · exact hnot client command hasks
  · have hends := ends_ofReport surroundings (perform client surroundings command traffic).1
    rw [hrun]
    refine ⟨?_, ?_, hends.errors_ne_empty, ?_, ?_⟩
    · rw [hends.status_eq_zero_iff, perform_iff]
      constructor
      · exact fun hdone ↦ ⟨client, command, hasks, hdone⟩
      · rintro ⟨_, _, hasks', hdone⟩
        obtain ⟨rfl, rfl⟩ := hasks.unique hasks'
        exact hdone
    · rw [← not_not (a := _ = 101), ← ne_eq, ← hends.isPrinted_iff]
      constructor
      · exact fun hunprinted ↦ .inr ⟨client, command, hasks, hunprinted⟩
      · rintro (hunread | ⟨_, _, hasks', hunprinted⟩)
        · exact absurd hasks.worded (ne_map_encode hunread _)
        · obtain ⟨rfl, rfl⟩ := hasks.unique hasks'
          exact hunprinted
    · rintro (⟨failure, hfailure⟩ | hwords | ⟨command', hwords, hunfit⟩)
      · rw [hasks.built] at hfailure
        cases hfailure
      · exact absurd hasks.worded (hwords command)
      · obtain ⟨-, rfl⟩ := hasks.unique ⟨hasks.built, hwords⟩
        exact perform_of_isUnfit hunfit
    · rintro soql hwords
      have hquery : Asks surroundings arguments client (.query soql) := ⟨hasks.built, hwords⟩
      obtain ⟨-, rfl⟩ := hasks.unique hquery
      obtain ⟨pages, hqueried, hexit⟩ | hfailed := ends_query hends
      · exact .inl ⟨client, pages, hasks.built, hqueried, hexit⟩
      · exact .inr hfailed

/-- A place where the environment names the sample org and there is no file. Of the two listings,
the one of query jobs goes on first. -/
def Surroundings.sample : Surroundings where
  environment := [("SF_INSTANCE_URL", "http://[::1]/"), ("SF_ACCESS_TOKEN", "t")]
  fileContent := fun _ ↦ .error "no such file"
  clock := fun _ ↦ .ofSeconds 0
  turns := [false]

/-- Two listings of one page each: no query job, and one ingest job. -/
def listingReplies : List Http.Reply :=
  [{ body := Utf8.encode "\x7b\"records\":[]\x7d" },
    { body := Utf8.encode
        ("\x7b\"records\":[\x7b\"id\":\"1\",\"state\":\"Open\"," ++
          "\"object\":\"Account\",\"operation\":\"insert\"\x7d]\x7d") }]

/-- All jobs are listed, and a query cannot be run, as it is answered with a page of a listing. -/
theorem status_run_listed :
    (run .sample [Utf8.encode "jobs"] { replies := listingReplies }).1 =
        { status := 0, output := "ingest 1 Open insert Account\n", errors := "" } ∧
      (∃ client, Asks .sample [Utf8.encode "jobs"] client .jobs ∧
        ∃ pages pages', Listed client [false] { replies := listingReplies } pages pages') ∧
      (run .sample [Utf8.encode "query", Utf8.encode "SELECT Id"]
        { replies := listingReplies }).1.status = 1 := by
  have hexit : (run .sample [Utf8.encode "jobs"] { replies := listingReplies }).1 =
      { status := 0, output := "ingest 1 Open insert Account\n", errors := "" } := by
    decide +kernel
  have hzero : (run .sample [Utf8.encode "jobs"] { replies := listingReplies }).1.status = 0 := by
    rw [hexit]
  obtain ⟨client, command, hasks, hdone, -⟩ := (status_run _ _ _).1.mp hzero
  obtain ⟨-, rfl⟩ : client = client ∧ Command.jobs = command := hasks.unique ⟨hasks.built, rfl⟩
  exact ⟨hexit, ⟨client, hasks, hdone⟩, by decide +kernel⟩

/-- A look at a job whose id is a byte that is no text: the exit status is neither zero nor one,
although the arguments before it are those of a command. -/
theorem unreadable_argument_panics :
    (run .sample [Utf8.encode "status", [0xFF]] { replies := listingReplies }).1.status = 101 ∧
      (∀ word, Utf8.encode word ≠ [0xFF]) := by
  refine ⟨by decide +kernel, fun word hword ↦ ?_⟩
  have hread : Utf8.decode? [0xFF] = some word := Utf8.decode?_eq_some_iff.mpr hword
  have hnone : Utf8.decode? [0xFF] = none := by decide +kernel
  rw [hnone] at hread
  cases hread

end BulkJobs.Console
