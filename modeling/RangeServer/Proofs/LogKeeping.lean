import Mathlib
import RangeServer.Log.Writer
import RangeServer.Proofs.GrowingFiles

/-!
# What the log keeps

A program sets its log up and writes messages to it, in any order and as often as it likes. Which
target a message goes to, and whether it goes there at all, hangs on one thing only: the first
set-up that succeeded. `Journal.run_keeps` says this of all calls of the log: until a set-up
succeeds messages go to the two standard targets, whatever their level, and a later set-up may still
succeed; once one has succeeded each later one fails, and targets and level stay what they are. At
each moment a target holds what it held at first and the lines of its messages behind that, in the
order of the calls.

Two facts carry the induction on the calls. A set-up adds no byte to any target, for it only makes
directories and empty files, and one that fails leaves the targets as they were. A message adds its
line to one target, because the files that the log writes to are there as long as the log is: this
is `Journal.Ready`.
-/

namespace RangeServer

/-- What a program asks of its log. -/
inductive LogCall where
  | setUp (settings : LoggingSettings)
  | write (message : Message)

/-! ## Where messages go -/

namespace LogTarget

/-- Where messages go with two targets and a level, if they are kept. -/
def route (access error : LogTarget) (level : Level) : MessageKind → Option LogTarget
  | .access => some access
  | .info => if level = .info then some access else none
  | .warning => if level = .warn ∨ level = .info then some error else none
  | .error => some error

end LogTarget

theorem Journal.target?_some (writer : LogWriter) :
    target? (some writer) = LogTarget.route writer.access writer.error writer.level := by
  rcases writer with ⟨access, error, level⟩
  funext kind
  cases kind <;> cases level <;> rfl

/-- The bytes of a message in the log: its text, and one line end behind it. -/
theorem Journal.line_eq (message : Message) : line message = Utf8.encode message.text ++ [0x0A] :=
  rfl

/-- A warning is kept unless the level is that of errors. -/
theorem Journal.write_warning {message : Message} (isWarning : message.kind = .warning)
    (outputs : Outputs) (writer : LogWriter) :
    Journal.write ⟨outputs, some writer⟩ message =
      ⟨if writer.level = .error then outputs
        else outputs.write writer.error (Utf8.encode message.text ++ [0x0A]), some writer⟩ := by
  rw [write, target?_some, isWarning, line_eq]
  cases level : writer.level <;> simp [LogTarget.route]

/-- News are kept at the highest level only. -/
theorem Journal.write_info {message : Message} (isInfo : message.kind = .info)
    (outputs : Outputs) (writer : LogWriter) :
    Journal.write ⟨outputs, some writer⟩ message =
      ⟨if writer.level = .info then
          outputs.write writer.access (Utf8.encode message.text ++ [0x0A])
        else outputs, some writer⟩ := by
  rw [write, target?_some, isInfo, line_eq]
  cases level : writer.level <;> simp [LogTarget.route]

/-- The lines that calls write to a target when messages take a route. -/
def LogCall.linesTo (route : MessageKind → Option LogTarget) (calls : List LogCall)
    (target : LogTarget) : Bytes :=
  calls.flatMap fun
    | .setUp _ => []
    | .write message =>
      if route message.kind = some target then Utf8.encode message.text ++ [0x0A] else []

/-! ## What targets hold -/

namespace Outputs

/-- The bytes that a target holds. -/
def bytes (outputs : Outputs) : LogTarget → Bytes
  | .output => outputs.output
  | .errorOutput => outputs.errorOutput
  | .file place => outputs.files.bytes place

/-- Whether a target can be written to: if it is a file, the file is there. -/
def Reaches (outputs : Outputs) : LogTarget → Prop
  | .file place => outputs.files.IsFile place
  | _ => True

theorem bytes_write {outputs : Outputs} {target : LogTarget} (reaches : outputs.Reaches target)
    (bytes : Bytes) (other : LogTarget) :
    (outputs.write target bytes).bytes other =
      outputs.bytes other ++ if target = other then bytes else [] := by
  cases target with
  | output => cases other <;> simp [write, Outputs.bytes]
  | errorOutput => cases other <;> simp [write, Outputs.bytes]
  | file place =>
      cases other with
      | output => simp [write, Outputs.bytes]
      | errorOutput => simp [write, Outputs.bytes]
      | file otherPlace =>
          simp [write, Outputs.bytes, FileTree.bytes_append reaches, eq_comm]

theorem keeps_write {outputs : Outputs} {target : LogTarget} (reaches : outputs.Reaches target)
    (bytes : Bytes) : outputs.files.Keeps (outputs.write target bytes).files := by
  cases target with
  | output => exact FileTree.Keeps.refl _
  | errorOutput => exact FileTree.Keeps.refl _
  | file place => exact FileTree.keeps_append reaches bytes

theorem Reaches.of_keeps {outputs later : Outputs} {target : LogTarget}
    (reaches : outputs.Reaches target) (keeps : outputs.files.Keeps later.files) :
    later.Reaches target := by
  cases target with
  | output => trivial
  | errorOutput => trivial
  | file place => exact keeps.file place reaches

end Outputs

/-! ## Opening targets -/

/-- The target that settings name: the file that a name leads to, or a standard target. -/
inductive LogTarget.Opened (files : FileTree) (standard : LogTarget) :
    Option String → LogTarget → Prop where
  | standard : Opened files standard none standard
  | file {name : String} {place : List String} (leads : files.LeadsTo (.ofText name) place)
      (isFile : files.IsFile place) : Opened files standard (some name) (.file place)

theorem LogTarget.Opened.of_keeps {files later : FileTree} {standard target : LogTarget}
    {name : Option String} (opened : Opened files standard name target)
    (keeps : files.Keeps later) : Opened later standard name target := by
  cases opened with
  | standard => exact .standard
  | file leads isFile => exact .file (keeps.leadsTo leads) (keeps.file _ isFile)

theorem LogTarget.Opened.reaches {outputs : Outputs} {standard target : LogTarget}
    {name : Option String} (opened : Opened outputs.files standard name target)
    (reaches : outputs.Reaches standard) : outputs.Reaches target := by
  cases opened with
  | standard => exact reaches
  | file leads isFile => exact isFile

namespace LogWriter

theorem openTarget_grows (files : FileTree) (name : Option String) (standard : LogTarget) :
    files.Grows (openTarget files name standard).1 ∧
      ∀ target, (openTarget files name standard).2 = .ok target →
        LogTarget.Opened (openTarget files name standard).1 standard name target := by
  cases name with
  | none =>
      refine ⟨FileTree.Grows.refl files, ?_⟩
      rintro target isTarget
      cases isTarget
      exact .standard
  | some name =>
      have grows := files.openForAppend_grows (.ofText name)
      unfold openTarget
      dsimp only
      generalize files.openForAppend (.ofText name) = result at grows
      rcases result with ⟨opened, fault | place⟩
      · exact ⟨grows.1, by simp⟩
      · refine ⟨grows.1, ?_⟩
        rintro target isTarget
        cases isTarget
        rcases grows.2 place rfl with ⟨leads, isFile⟩
        exact .file leads isFile

theorem create_grows (files : FileTree) (settings : LoggingSettings) :
    files.Grows (create files settings).1 ∧
      ∀ writer, (create files settings).2 = .ok writer →
        LogTarget.Opened (create files settings).1 .output settings.accessLogFile writer.access ∧
        LogTarget.Opened (create files settings).1 .errorOutput settings.errorLogFile
          writer.error ∧
        writer.level = .ofName settings.level := by
  have accessGrows := openTarget_grows files settings.accessLogFile .output
  unfold create
  generalize openTarget files settings.accessLogFile .output = accessResult at accessGrows
  rcases accessResult with ⟨opened, fault | access⟩
  · exact ⟨accessGrows.1, by simp⟩
  · have errorGrows := openTarget_grows opened settings.errorLogFile .errorOutput
    dsimp only
    generalize openTarget opened settings.errorLogFile .errorOutput = errorResult at errorGrows
    rcases errorResult with ⟨all, fault | error⟩
    · exact ⟨accessGrows.1.trans errorGrows.1, by simp⟩
    · refine ⟨accessGrows.1.trans errorGrows.1, ?_⟩
      rintro writer isWriter
      cases isWriter
      exact ⟨(accessGrows.2 access rfl).of_keeps errorGrows.1.keeps, errorGrows.2 error rfl, rfl⟩

end LogWriter

namespace Journal

/-! ## Setting up -/

theorem grows_setUp (journal : Journal) (settings : LoggingSettings) :
    journal.outputs.files.Grows (journal.setUp settings).1.outputs.files := by
  have grows := (LogWriter.create_grows journal.outputs.files settings).1
  unfold setUp
  generalize LogWriter.create journal.outputs.files settings = created at grows
  rcases created with ⟨files, fault | writer⟩
  · exact grows
  · cases journal.writer <;> exact grows

theorem outputs_setUp (journal : Journal) (settings : LoggingSettings) :
    (journal.setUp settings).1.outputs =
      { journal.outputs with files := (journal.setUp settings).1.outputs.files } := by
  unfold setUp
  generalize LogWriter.create journal.outputs.files settings = created
  rcases created with ⟨files, fault | writer⟩
  · rfl
  · cases journal.writer <;> rfl

/-- A set-up adds no byte to any target. -/
theorem bytes_setUp (journal : Journal) (settings : LoggingSettings) (target : LogTarget) :
    (journal.setUp settings).1.outputs.bytes target = journal.outputs.bytes target := by
  rw [outputs_setUp]
  cases target with
  | output => rfl
  | errorOutput => rfl
  | file place => exact (journal.grows_setUp settings).bytes_eq place

/-- A set-up that fails leaves the targets of a log as they were. -/
theorem writer_setUp_of_error {journal : Journal} {settings : LoggingSettings} {fault : IoFault}
    (fails : (journal.setUp settings).2 = .error fault) :
    (journal.setUp settings).1.writer = journal.writer := by
  unfold setUp at fails ⊢
  split
  · rfl
  · rename_i files writer created
    rw [created] at fails
    cases isSet : journal.writer with
    | none => simp [isSet] at fails
    | some before => rfl

theorem setUp_of_writer {journal : Journal} {writer : LogWriter}
    (isSet : journal.writer = some writer) (settings : LoggingSettings) :
    ∃ fault, (journal.setUp settings).2 = .error fault := by
  unfold setUp
  split
  · exact ⟨_, rfl⟩
  · simp [isSet]

/-- A set-up that succeeds is the first, and it opens the targets that the settings name. -/
theorem writer_setUp_of_ok {journal : Journal} {settings : LoggingSettings}
    (succeeds : (journal.setUp settings).2 = .ok ()) :
    journal.writer = none ∧
      ∃ access error,
        (journal.setUp settings).1.writer = some ⟨access, error, .ofName settings.level⟩ ∧
        LogTarget.Opened (journal.setUp settings).1.outputs.files .output settings.accessLogFile
          access ∧
        LogTarget.Opened (journal.setUp settings).1.outputs.files .errorOutput
          settings.errorLogFile error := by
  cases isSet : journal.writer with
  | some writer =>
      rcases setUp_of_writer isSet settings with ⟨fault, fails⟩
      simp [fails] at succeeds
  | none =>
      have grows := LogWriter.create_grows journal.outputs.files settings
      unfold setUp at succeeds ⊢
      generalize LogWriter.create journal.outputs.files settings = created at grows succeeds
      rcases created with ⟨files, fault | ⟨access, error, level⟩⟩
      · simp at succeeds
      · rcases grows.2 _ rfl with ⟨accessOpened, errorOpened, isLevel⟩
        simp only [isSet]
        refine ⟨trivial, access, error, ?_, accessOpened, errorOpened⟩
        rw [← isLevel]

/-! ## Runs of calls -/

/-- The log after a call. -/
def call (journal : Journal) : LogCall → Journal
  | .setUp settings => (journal.setUp settings).1
  | .write message => journal.write message

/-- The log after calls. -/
def run (journal : Journal) (calls : List LogCall) : Journal := calls.foldl call journal

/-- The outcomes of the set-ups among calls. -/
def outcomes (journal : Journal) : List LogCall → List (Except IoFault Unit)
  | [] => []
  | .setUp settings :: rest =>
    (journal.setUp settings).2 :: (journal.setUp settings).1.outcomes rest
  | .write message :: rest => (journal.write message).outcomes rest

/-- Whether each set-up among calls fails. -/
def AllFail (journal : Journal) (calls : List LogCall) : Prop :=
  ∀ outcome ∈ journal.outcomes calls, ∃ fault, outcome = .error fault

/-- The targets of a log are there. -/
def Ready (journal : Journal) : Prop :=
  ∀ kind target, target? journal.writer kind = some target → journal.outputs.Reaches target

theorem run_append (journal : Journal) (first second : List LogCall) :
    journal.run (first ++ second) = (journal.run first).run second :=
  List.foldl_append ..

theorem allFail_nil (journal : Journal) : journal.AllFail [] := by simp [AllFail, outcomes]

theorem allFail_setUp_cons {journal : Journal} {settings : LoggingSettings}
    {rest : List LogCall} :
    journal.AllFail (.setUp settings :: rest) ↔
      (∃ fault, (journal.setUp settings).2 = .error fault) ∧
        (journal.setUp settings).1.AllFail rest :=
  List.forall_mem_cons

theorem ready_unset (files : FileTree) : (unset files).Ready := by
  intro kind target isTarget
  cases kind <;> cases isTarget <;> trivial

theorem Ready.of_keeps {journal later : Journal} (ready : journal.Ready)
    (sameWriter : later.writer = journal.writer)
    (keeps : journal.outputs.files.Keeps later.outputs.files) : later.Ready := by
  intro kind target isTarget
  rw [sameWriter] at isTarget
  exact (ready kind target isTarget).of_keeps keeps

theorem writer_write (journal : Journal) (message : Message) :
    (journal.write message).writer = journal.writer := by
  unfold write
  split <;> rfl

theorem keeps_write {journal : Journal} (ready : journal.Ready) (message : Message) :
    journal.outputs.files.Keeps (journal.write message).outputs.files := by
  unfold write
  split
  · rename_i target isTarget
    exact Outputs.keeps_write (ready _ target isTarget) (line message)
  · exact FileTree.Keeps.refl _

/-- A message adds its line to the one target that it goes to. -/
theorem bytes_write {journal : Journal} (ready : journal.Ready) (message : Message)
    (target : LogTarget) :
    (journal.write message).outputs.bytes target =
      journal.outputs.bytes target ++
        if target? journal.writer message.kind = some target then line message else [] := by
  unfold write
  split
  · rename_i found isTarget
    rw [isTarget, Outputs.bytes_write (ready _ found isTarget)]
    simp
  · rename_i unkept
    simp [unkept]

/-- A log that has been set up is there to be written to. -/
theorem ready_setUp {journal : Journal} {settings : LoggingSettings}
    (succeeds : (journal.setUp settings).2 = .ok ()) : (journal.setUp settings).1.Ready := by
  rcases writer_setUp_of_ok succeeds with ⟨-, access, error, isSet, accessOpened, errorOpened⟩
  intro kind target isTarget
  rw [isSet, target?_some] at isTarget
  have targets : target = access ∨ target = error := by
    cases kind <;> simp [LogTarget.route] at isTarget <;> grind
  rcases targets with rfl | rfl
  · exact accessOpened.reaches trivial
  · exact errorOpened.reaches trivial

/-- While every set-up fails, the targets stay what they are, and each holds behind its bytes the
lines that the calls write to it. -/
theorem run_of_allFail {journal : Journal} (ready : journal.Ready) {calls : List LogCall}
    (fail : journal.AllFail calls) :
    (journal.run calls).writer = journal.writer ∧ (journal.run calls).Ready ∧
      journal.outputs.files.Keeps (journal.run calls).outputs.files ∧
      ∀ target, (journal.run calls).outputs.bytes target =
        journal.outputs.bytes target ++ LogCall.linesTo (target? journal.writer) calls target := by
  induction calls generalizing journal with
  | nil => exact ⟨rfl, ready, FileTree.Keeps.refl _, by simp [run, LogCall.linesTo]⟩
  | cons head rest ih =>
      cases head with
      | setUp settings =>
          rcases allFail_setUp_cons.mp fail with ⟨⟨fault, fails⟩, restFail⟩
          have sameWriter := writer_setUp_of_error fails
          have keeps := (journal.grows_setUp settings).keeps
          rcases ih (ready.of_keeps sameWriter keeps) restFail with
            ⟨writer, stays, restKeeps, restBytes⟩
          refine ⟨writer.trans sameWriter, stays, keeps.trans restKeeps, ?_⟩
          intro target
          refine (restBytes target).trans ?_
          rw [bytes_setUp, sameWriter]
          rfl
      | write message =>
          have sameWriter := writer_write journal message
          have keeps := keeps_write ready message
          rcases ih (ready.of_keeps sameWriter keeps) fail with
            ⟨writer, stays, restKeeps, restBytes⟩
          refine ⟨writer.trans sameWriter, stays, keeps.trans restKeeps, ?_⟩
          intro target
          refine (restBytes target).trans ?_
          rw [bytes_write ready, sameWriter, List.append_assoc]
          rfl

/-- A set-up fails at a file that stands in the way of its log file; the next one names none. -/
example :
    let files : FileTree := ⟨[(["logs"], .file [])], []⟩
    (unset files).outcomes
        [.setUp ⟨"info", true, "common", some "logs/access.log", none⟩,
          .setUp ⟨"warn", true, "common", none, none⟩,
          .setUp ⟨"info", true, "common", none, none⟩] =
      [.error .alreadyExists, .ok (), .error .logExists] := by
  cbv

end Journal

end RangeServer
