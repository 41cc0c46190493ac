import Summand.CommandLine.Basic
import Summand.Proofs.Session.Lines
import Summand.Proofs.Session.OutputLines

/-!
# What a dialogue comes to

Without a file, the program is a fold over the lines of its input.  The lines are what line feeds cut
the input into (`lines_eq_cut`), and those in front of the first that holds no text are `heard`.  One
session runs them in turn.  Each line adds to the two streams what it comes to (`Follows.answered`),
and a line that holds no text ends the dialogue (`follows_read_of_none`).

A fault does not end the dialogue.  It comes from one statement of its line, and the session goes on
with the bindings that were made in front of this statement (`Session.Interrupted`).  The main
statement is `run_converses`.
-/

namespace Summand

open Text

namespace CommandLine

/-! ## Lines -/

/-- The bytes without a carriage return at their end. -/
def dropReturn (bytes : List UInt8) : List UInt8 :=
  if bytes.getLast? = some 0x0D then bytes.dropLast else bytes

/-- The lines among pieces that line feeds have separated: only the last piece is not ended by a line
feed, and it is no line if it is empty. -/
def linesOfPieces (pieces : List (List UInt8)) : List (List UInt8) :=
  pieces.dropLast.map dropReturn ++ pieces.getLast?.toList.filter (· ≠ [])

/-- An input cut at its line feeds. -/
def cut (input : List UInt8) : List (List UInt8) :=
  linesOfPieces (input.splitOn 0x0A)

/-- Behind the first piece there are others if a line feed has ended it. -/
lemma linesOfPieces_cons_cons (piece next : List UInt8) (pieces : List (List UInt8)) :
    linesOfPieces (piece :: next :: pieces) =
      dropReturn piece :: linesOfPieces (next :: pieces) := by
  simp [linesOfPieces]

lemma linesOfPieces_singleton (piece : List UInt8) :
    linesOfPieces [piece] = if piece = [] then [] else [piece] := by
  by_cases h : piece = [] <;> simp [linesOfPieces, h]

/-- A byte in front does not matter to a carriage return at the end, if it is not the end itself. -/
lemma dropReturn_cons {byte : UInt8} {bytes : List UInt8} (h : byte = 0x0D → bytes ≠ []) :
    dropReturn (byte :: bytes) = byte :: dropReturn bytes := by
  cases bytes with
  | nil =>
    have hbyte : byte ≠ 0x0D := fun heq => h heq rfl
    simp [dropReturn, hbyte]
  | cons next bytes =>
    unfold dropReturn
    rw [List.getLast?_cons_cons]
    split <;> rfl

/-- A line feed ends a line. -/
lemma cut_lineFeed (rest : List UInt8) : cut (0x0A :: rest) = [] :: cut rest := by
  obtain ⟨piece, pieces, hpieces⟩ := List.exists_cons_of_ne_nil (List.splitOn_ne_nil 0x0A rest)
  simp only [cut, List.splitOn_cons_eq_if_modifyHead, beq_self_eq_true, if_true, hpieces,
    linesOfPieces_cons_cons]
  rfl

/-- A carriage return in front of a line feed belongs to the end of the line. -/
lemma cut_carriageReturn (rest : List UInt8) : cut (0x0D :: 0x0A :: rest) = [] :: cut rest := by
  obtain ⟨piece, pieces, hpieces⟩ := List.exists_cons_of_ne_nil (List.splitOn_ne_nil 0x0A rest)
  have hreturn : ((0x0D : UInt8) == 0x0A) = false := by decide
  simp only [cut, List.splitOn_cons_eq_if_modifyHead, beq_self_eq_true, if_true, hreturn,
    Bool.false_eq_true, if_false, List.modifyHead_cons, hpieces, linesOfPieces_cons_cons]
  rfl

/-- If a line feed has ended an empty piece, it is the first byte. -/
lemma exists_of_splitOn {bytes next : List UInt8} {pieces : List (List UInt8)}
    (h : bytes.splitOn 0x0A = [] :: next :: pieces) : ∃ more, bytes = 0x0A :: more := by
  cases bytes with
  | nil => simp at h
  | cons byte bytes =>
    obtain ⟨piece, pieces', hpieces⟩ := List.exists_cons_of_ne_nil (List.splitOn_ne_nil 0x0A bytes)
    rw [List.splitOn_cons_eq_if_modifyHead, hpieces, List.modifyHead_cons] at h
    split at h
    · rename_i hbyte
      exact ⟨bytes, by rw [beq_iff_eq.1 hbyte]⟩
    · simp at h

/-- Any other byte is the first of its line. -/
lemma cut_cons {byte : UInt8} {rest : List UInt8} (hfeed : byte ≠ 0x0A)
    (hreturn : ∀ more, byte = 0x0D → rest ≠ 0x0A :: more) :
    cut (byte :: rest) =
      match cut rest with
      | [] => [[byte]]
      | line :: more => (byte :: line) :: more := by
  obtain ⟨piece, pieces, hpieces⟩ := List.exists_cons_of_ne_nil (List.splitOn_ne_nil 0x0A rest)
  simp only [cut, List.splitOn_cons_eq_if_modifyHead, beq_iff_eq, hfeed, if_false, hpieces,
    List.modifyHead_cons]
  cases pieces with
  | nil =>
    simp only [linesOfPieces_singleton, reduceCtorEq, if_false]
    by_cases hpiece : piece = []
    · simp [hpiece]
    · simp [hpiece]
  | cons next pieces =>
    -- The byte is not a carriage return that a line feed follows, so it is not dropped.
    have hdrop : dropReturn (byte :: piece) = byte :: dropReturn piece := by
      refine dropReturn_cons fun hbyte hpiece => ?_
      rw [hpiece] at hpieces
      obtain ⟨more, hmore⟩ := exists_of_splitOn hpieces
      exact hreturn more hbyte hmore
    simp only [linesOfPieces_cons_cons, hdrop]

/-- The lines of an input are what line feeds cut it into. -/
lemma lines_eq_cut (input : List UInt8) : lines input = cut input := by
  fun_induction lines input with
  | case1 => rfl
  | case2 rest ih => rw [cut_lineFeed, ih]
  | case3 rest ih => rw [cut_carriageReturn, ih]
  | case4 byte rest hfeed hreturn hlines ih =>
    rw [cut_cons hfeed hreturn, ← ih, hlines]
  | case5 byte rest hfeed hreturn line more hlines ih =>
    rw [cut_cons hfeed hreturn, ← ih, hlines]

/-- The texts of lines, up to the first line that holds no text. -/
def heard (lines : List (List UInt8)) : List String :=
  (lines.takeWhile fun line => (decode? line).isSome).filterMap decode?

/-- Every line holds text. -/
def Readable (lines : List (List UInt8)) : Prop :=
  ∀ line ∈ lines, (decode? line).isSome

instance (lines : List (List UInt8)) : Decidable (Readable lines) :=
  inferInstanceAs (Decidable (∀ line ∈ lines, _))

/-- A line that holds no text ends what is heard. -/
lemma heard_of_none {line : List UInt8} (h : decode? line = none) (lines : List (List UInt8)) :
    heard (line :: lines) = [] := by
  simp [heard, h]

/-- A line that holds text is heard, and then the others. -/
lemma heard_of_some {line : List UInt8} {source : String} (h : decode? line = some source)
    (lines : List (List UInt8)) : heard (line :: lines) = source :: heard lines := by
  simp [heard, h]

end CommandLine

/-! ## Sessions -/

namespace Session

/-- What sources come to that are run one after the other. -/
def answers (session : Session) (sources : List String) : List (Except Fault Answer) :=
  (session.reports sources).map Report.answer

@[simp] lemma answers_nil (session : Session) : session.answers [] = [] := rfl

@[simp] lemma answers_cons (session : Session) (source : String) (sources : List String) :
    session.answers (source :: sources) =
      (session.extend source).1 :: (session.extend source).2.answers sources := rfl

/-- A fault has interrupted a source.  It comes from the expression of one statement, in an
environment that the statements in front of it leave, and this environment is kept. -/
def Interrupted (session : Session) (source : String) (fault : Fault) (after : Session) : Prop :=
  let interpreter : Interpreter := { limit := session.config.callLimit }
  ∃ finished s unfinished e v,
    (session.report source).program = finished ++ s :: unfinished ∧ s.expr? = some e ∧
    (interpreter.extend finished session.environment).1 = .ok v ∧
    (interpreter.extend finished session.environment).2.1 = after.environment ∧
    (interpreter.evaluate e after.environment).1 = .error fault

/-- Only such a fault makes a source fail. -/
lemma interrupted_of_error {session : Session} {source : String} {fault : Fault}
    (h : (session.extend source).1 = .error fault) :
    session.Interrupted source fault (session.extend source).2 := by
  rw [extend_eq] at h ⊢
  cases hresult : (runBlock session.enter session.environment
      (session.report source).program).result with
  | ok v => simp [hresult, Except.map] at h
  | error fault' =>
    simp only [hresult, Except.map, Except.error.injEq] at h
    subst h
    exact exists_of_runBlock_error hresult

end Session

namespace CommandLine

/-! ## Replies -/

/-- What is written to the output for one line. -/
def shown : Except Fault Answer → String
  | .ok answer => answer.value.text ++ "\n"
  | .error _ => ""

/-- The lines on the error stream for one line: a warning for each remark, or an error. -/
def complaints (palette : Palette) : Except Fault Answer → List String
  | .ok answer => answer.diagnostics.map fun d => palette.warning.label "warning:" ++ " " ++ d.text
  | .error fault => [palette.error.label "error:" ++ " " ++ fault.message]

/-- Lines one below the other. -/
def printed (lines : List String) : String :=
  String.join (lines.map fun line => line ++ "\n")

lemma printed_append (first second : List String) :
    printed (first ++ second) = printed first ++ printed second := by
  simp [printed]

lemma Reply.append_eq (first second : Reply) :
    first ++ second = ⟨first.output ++ second.output, first.errors ++ second.errors⟩ := rfl

/-- A line is answered by what the session makes of it. -/
lemma respond_eq (palette : Palette) (session : Session) (source : String) :
    respond palette session source =
      (⟨shown (session.extend source).1, printed (complaints palette (session.extend source).1)⟩,
        (session.extend source).2) := by
  unfold respond
  obtain ⟨answer, after⟩ := session.extend source
  cases answer with
  | ok answer =>
    simp only [shown, complaints, printed, Reply.ofAnswer, List.map_map]
    rfl
  | error fault => simp [shown, complaints, printed, faultLine]

/-- What is said about lines of which one holds no text. -/
def failures (lines : List (List UInt8)) : List String :=
  if Readable lines then [] else ["Error: " ++ notText]

namespace Dialogue

/-- A line that holds text is answered, and a prompt follows. -/
lemma read_of_some {palette : Palette} {d : Dialogue} (h : d.broken = false) {line : List UInt8}
    {source : String} (hline : decode? line = some source) :
    d.read palette line =
      { session := (d.session.extend source).2
        transcript :=
          { reply :=
              ⟨d.transcript.reply.output ++ shown (d.session.extend source).1 ++ prompt,
                d.transcript.reply.errors ++
                  printed (complaints palette (d.session.extend source).1)⟩
            code := d.transcript.code } } := by
  simp only [read, h, Bool.false_eq_true, if_false, hline, respond_eq, Reply.append_eq,
    String.append_empty]

/-- What a dialogue comes to behind some lines. -/
structure Follows (palette : Palette) (lines : List (List UInt8)) (d last : Dialogue) : Prop where
  session : last.session = d.session.after (heard lines)
  output : ∀ said, d.transcript.reply.output = said ++ prompt →
    last.transcript.reply.output =
      said ++ String.join ((d.session.answers (heard lines)).map fun answer =>
        prompt ++ shown answer) ++ prompt
  errors : last.transcript.reply.errors = d.transcript.reply.errors ++
    printed ((d.session.answers (heard lines)).flatMap (complaints palette) ++ failures lines)
  code : last.transcript.code = if Readable lines then d.transcript.code else 1

/-- Nothing has been said behind no lines. -/
lemma Follows.refl (palette : Palette) (d : Dialogue) : Follows palette [] d d := by
  refine ⟨rfl, ?_, ?_, rfl⟩
  · intro said hsaid
    simp [heard, hsaid]
  · simp [heard, failures, Readable, printed]

/-- A line that holds text is answered in front of the others. -/
lemma Follows.answered {palette : Palette} {lines : List (List UInt8)} {d last : Dialogue}
    (h : d.broken = false) {line : List UInt8} {source : String} (hline : decode? line = some source)
    (hlast : Follows palette lines (d.read palette line) last) :
    Follows palette (line :: lines) d last := by
  have hreadable : Readable (line :: lines) ↔ Readable lines := by simp [Readable, hline]
  have hfailures : failures (line :: lines) = failures lines := by simp [failures, hreadable]
  rw [read_of_some h hline] at hlast
  refine ⟨?_, ?_, ?_, ?_⟩
  · rw [hlast.session, heard_of_some hline]
    rfl
  · intro said hsaid
    rw [hlast.output (said ++ (prompt ++ shown (d.session.extend source).1))
      (by simp [hsaid, String.append_assoc]), heard_of_some hline]
    simp [String.append_assoc]
  · rw [hlast.errors, heard_of_some hline, hfailures]
    simp [printed_append, String.append_assoc]
  · rw [hlast.code]
    simp [hreadable]

/-- A line that holds no text ends the dialogue with a failure. -/
lemma follows_read_of_none {palette : Palette} (lines : List (List UInt8)) {d : Dialogue}
    (h : d.broken = false) {line : List UInt8} (hline : decode? line = none) :
    Follows palette (line :: lines) d (d.read palette line) := by
  have hreadable : ¬Readable (line :: lines) := by simp [Readable, hline]
  have hread : d.read palette line =
      { d with
        transcript := ⟨d.transcript.reply ++ (Transcript.failure notText).reply, 1⟩
        broken := true } := by
    simp [read, h, hline, Transcript.failure]
  rw [hread, Reply.append_eq]
  refine ⟨?_, ?_, ?_, ?_⟩
  · rw [heard_of_none hline]
    rfl
  · intro said hsaid
    rw [heard_of_none hline]
    simp [Transcript.failure, hsaid]
  · rw [heard_of_none hline, failures, if_neg hreadable]
    simp [Transcript.failure, printed]
  · rw [if_neg hreadable]

/-- A dialogue that bytes have ended takes no more lines. -/
lemma foldl_read_of_broken {palette : Palette} {d : Dialogue} (h : d.broken = true)
    (lines : List (List UInt8)) : lines.foldl (read palette) d = d := by
  induction lines with
  | nil => rfl
  | cons line lines ih =>
    have hread : d.read palette line = d := by simp [read, h]
    rw [List.foldl_cons, hread, ih]

/-- A dialogue that goes on answers lines up to the first that holds no text. -/
lemma follows_foldl_read (palette : Palette) {d : Dialogue} (h : d.broken = false)
    (lines : List (List UInt8)) : Follows palette lines d (lines.foldl (read palette) d) := by
  induction lines generalizing d with
  | nil => exact .refl palette d
  | cons line lines ih =>
    rw [List.foldl_cons]
    cases hline : decode? line with
    | none =>
      have hbroken : (d.read palette line).broken = true := by simp [read, h, hline]
      rw [foldl_read_of_broken hbroken]
      exact follows_read_of_none lines h hline
    | some source =>
      have hgoing : (d.read palette line).broken = false := by rw [read_of_some h hline]
      exact Follows.answered h hline (ih hgoing)

end Dialogue

/-! ## One line for each complaint -/

/-- The codes of a style leave a label on its line. -/
lemma Style.oneLine_label (style : Style) {text : String} (h : OneLine text) :
    OneLine (style.label text) :=
  oneLine_append.2 ⟨oneLine_append.2 ⟨style.isLineEnd_opening, h⟩, style.isLineEnd_closing⟩

/-- What is complained about one source takes one line each. -/
lemma oneLine_complaints (palette : Palette) {session : Session} (h : session.environment.Named)
    (source : String) : ∀ line ∈ complaints palette (session.extend source).1, OneLine line := by
  have hwarning : OneLine (palette.warning.label "warning:" ++ " ") :=
    oneLine_append.2 ⟨palette.warning.oneLine_label (by decide), by decide⟩
  have herror : OneLine (palette.error.label "error:" ++ " ") :=
    oneLine_append.2 ⟨palette.error.oneLine_label (by decide), by decide⟩
  rw [Session.extend_eq]
  cases hresult : (runBlock session.enter session.environment
      (session.report source).program).result with
  | ok v =>
    intro line hline
    obtain ⟨d, hd, rfl⟩ := List.mem_map.1 hline
    exact oneLine_append.2 ⟨hwarning, Session.oneLine_report h source d hd⟩
  | error fault =>
    have hfault := (Session.plain_report h source).2.fault fault hresult
    exact List.forall_mem_singleton.2 (oneLine_append.2 ⟨herror, hfault⟩)

/-- What is complained about sources that are run one after the other takes one line each. -/
lemma oneLine_flatMap_complaints (palette : Palette) {session : Session}
    (h : session.environment.Named) (sources : List String) :
    ∀ line ∈ (session.answers sources).flatMap (complaints palette), OneLine line := by
  induction sources generalizing session with
  | nil => exact List.forall_mem_nil _
  | cons source sources ih =>
    rw [Session.answers_cons, List.flatMap_cons, List.forall_mem_append]
    exact ⟨oneLine_complaints palette h source, ih (Session.named_handle h (.extend source))⟩

/-! ## The program -/

/-- The configuration under flags, which all ask to go on behind unknown characters. -/
def flagged (arguments : List String) (config : Config) : Config :=
  if arguments = [] then config else { config with onUnknown := .recover }

/-- Flags ask for a dialogue under their configuration. -/
lemma ofArguments_of_flags {arguments : List String} (h : ∀ a ∈ arguments, a = Request.recoverFlag)
    {lookup : String → Option String} {config : Config}
    (hconfig : Config.ofLookup lookup = .ok config) :
    Request.ofArguments arguments lookup = .ok { config := flagged arguments config } := by
  have hfold (request : Request) : arguments.foldl Request.addArgument request =
      { request with config := flagged arguments request.config } := by
    induction arguments generalizing request with
    | nil => rfl
    | cons argument arguments ih =>
      rw [List.forall_mem_cons] at h
      rw [List.foldl_cons, ih h.2]
      by_cases hrest : arguments = [] <;> simp [Request.addArgument, h.1, flagged, hrest]
  rw [Request.ofArguments, hconfig]
  exact congrArg Except.ok (hfold { config })

/-- What a dialogue on an input comes to, line by line. -/
structure Converses (palette : Palette) (config : Config) (input : List UInt8) (last : Dialogue) :
    Prop where
  /-- The lines are run one after the other in one session, up to the first that holds no text. -/
  session : last.session =
    (heard (cut input)).foldl (fun session source => (session.extend source).2) { config }
  /-- Each line has a prompt and, if it has a value, the value; behind the last there is a prompt. -/
  output : last.transcript.reply.output =
    String.join ((Session.answers { config } (heard (cut input))).map fun answer =>
      "> " ++ shown answer) ++ "> "
  /-- The complaints about the lines follow each other, and behind them that about a line that holds no
  text. -/
  errors : last.transcript.reply.errors =
    printed ((Session.answers { config } (heard (cut input))).flatMap (complaints palette) ++
      if Readable (cut input) then [] else ["Error: stream did not contain valid UTF-8"])
  /-- Each complaint is one line. -/
  oneLine : ∀ line ∈ (Session.answers { config } (heard (cut input))).flatMap (complaints palette),
    OneLine line
  code : last.transcript.code = if Readable (cut input) then 0 else 1
  /-- A fault keeps the bindings that were made in front of it. -/
  interrupted : ∀ before source later fault, heard (cut input) = before ++ source :: later →
    ((Session.after { config } before).extend source).1 = .error fault →
    (Session.after { config } before).Interrupted source fault
      (Session.after { config } (before ++ [source]))

/-- Without a file, the program runs the lines of its input one after the other in one session, and
writes what they come to. -/
theorem run_converses (seen : Surroundings) (hflags : ∀ a ∈ seen.arguments, a = "--recover")
    {config : Config} (hconfig : Config.ofLookup seen.lookup = .ok config) :
    let last := (lines seen.input).foldl (Dialogue.read seen.palette)
      (Dialogue.start (flagged seen.arguments config))
    run seen = last.transcript ∧
      Converses seen.palette (flagged seen.arguments config) seen.input last := by
  intro last
  have hrun : run seen = last.transcript := by
    simp only [run, ofArguments_of_flags hflags hconfig]
    rfl
  have hfollows : Dialogue.Follows seen.palette (cut seen.input)
      (Dialogue.start (flagged seen.arguments config)) last := by
    rw [← lines_eq_cut]
    exact Dialogue.follows_foldl_read seen.palette rfl (lines seen.input)
  refine ⟨hrun, hfollows.session, ?_, ?_, ?_, hfollows.code, ?_⟩
  · have houtput := hfollows.output "" String.empty_append.symm
    rwa [String.empty_append] at houtput
  · have herrors := hfollows.errors
    rwa [Dialogue.start, String.empty_append] at herrors
  · exact oneLine_flatMap_complaints seen.palette Environment.named_empty _
  · intro before source later fault _ hfault
    have hafter : Session.after { config := flagged seen.arguments config } (before ++ [source]) =
        ((Session.after { config := flagged seen.arguments config } before).extend source).2 := by
      simp [Session.after]
    rw [hafter]
    exact Session.interrupted_of_error hfault

/-- A dialogue with flags.  A line that fails leaves the function that it has bound under a second
name, and bytes that are no text end the dialogue. -/
theorem run_converses_interrupted :
    let seen : Surroundings :=
      { arguments := ["--recover", "--recover"]
        lookup := fun name => if name = "ADDLE_MAX_CALL_DEPTH" then some "0" else none
        input := "function f()\x7b\x7d\nlet g = f; f()\r\ng\n".toUTF8.data.toList ++ [0xFF]
        file := fun _ => .error .notFound }
    run seen =
        { reply :=
            { output := "> undefined\n> > <fn f>\n> "
              errors := "error: Call depth limit of 0 exceeded while calling `f`\n" ++
                "Error: stream did not contain valid UTF-8\n" }
          code := 1 } ∧
      ∃ last, run seen = last.transcript ∧
        Converses .bare { onUnknown := .recover, callLimit := 0 } seen.input last := by
  intro seen
  have hflags : ∀ a ∈ seen.arguments, a = "--recover" := by decide
  have hconfig : Config.ofLookup seen.lookup = .ok { callLimit := 0 } := by decide +kernel
  exact ⟨by decide +kernel, _, run_converses seen hflags hconfig⟩

end CommandLine

end Summand
