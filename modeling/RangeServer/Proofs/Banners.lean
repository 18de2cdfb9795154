import Mathlib
import RangeServer.Log.Banner
import RangeServer.Proofs.AccessLines
import RangeServer.Proofs.TruthfulReplies

/-!
# What the banner advertises

The banner goes through the registrations, while a request finds the resource that was registered
first under its path. Both come to the same, also for paths that were registered again:
`Banner.advertises_what_is_served` compares each line of the banner with the reply to a request
without a range for the path of that line, and the preview with the body of such a reply.

What a line of a text is, is said by `Lines.Cut` without regard to the way in which lines are
found.
-/

namespace RangeServer

/-! ## Lines of a text -/

namespace Lines

/-- A text with its lines. A line ends in a line feed, with or without a carriage return before it,
or it is not empty and ends where the text does. -/
inductive Cut : List Char → List (List Char) → Prop where
  | nothing : Cut [] []
  | unended {line : List Char} (notEmpty : line ≠ []) (unbroken : '\n' ∉ line) : Cut line [line]
  | feed {line text : List Char} {lines : List (List Char)} (unbroken : '\n' ∉ line)
      (noReturn : line.getLast? ≠ some '\r') (cut : Cut text lines) :
      Cut (line ++ '\n' :: text) (line :: lines)
  | returnFeed {line text : List Char} {lines : List (List Char)} (unbroken : '\n' ∉ line)
      (cut : Cut text lines) : Cut (line ++ '\r' :: '\n' :: text) (line :: lines)

theorem cut_withoutReturn {before text : List Char} {lines : List (List Char)}
    (unbroken : '\n' ∉ before) (cut : Cut text lines) :
    Cut (before.reverse ++ '\n' :: text) ((withoutReturn before).reverse :: lines) := by
  unfold withoutReturn
  split
  · rename_i front
    have frontUnbroken : '\n' ∉ front.reverse := by
      intro mem
      apply unbroken
      exact List.mem_cons_of_mem _ (List.mem_reverse.mp mem)
    simpa using Cut.returnFeed frontUnbroken cut
  · rename_i noReturn
    apply Cut.feed (by simpa using unbroken) _ cut
    rw [List.getLast?_reverse]
    intro isReturn
    rcases List.head?_eq_some_iff.mp isReturn with ⟨front, rfl⟩
    exact noReturn front rfl

theorem cut_after {before : List Char} (unbroken : '\n' ∉ before) (text : List Char) :
    Cut (before.reverse ++ text) (after before text) := by
  induction text generalizing before with
  | nil =>
      rw [after, List.append_nil]
      split
      · simp_all [Cut.nothing]
      · simp_all [Cut.unended]
  | cons c rest ih =>
      rw [after]
      split
      · rename_i isFeed
        subst isFeed
        exact cut_withoutReturn unbroken (ih List.not_mem_nil)
      · rename_i noFeed
        have unbrokenStill : '\n' ∉ c :: before := by simp [unbroken, Ne.symm noFeed]
        simpa using ih unbrokenStill

end Lines

/-! ## What is served -/

namespace Catalogue

variable {catalogue : Catalogue} {path : String}

/-- The reply to a request for a path without a range, whatever is done past the end. -/
def Serves (catalogue : Catalogue) (path : String) (reply : Reply) : Prop :=
  ∀ policy, catalogue.reply path none policy = .ok reply

/-- Whether a line tells of a path with the media type and the length of the reply for it. -/
def Advertises (catalogue : Catalogue) (path line : String) : Prop :=
  ∃ reply mediaType length, catalogue.Serves path reply ∧
    reply.value? "Content-Type" = some mediaType ∧ reply.value? "Content-Length" = some length ∧
    line = "  GET " ++ path ++ " (" ++ mediaType ++ ", " ++ length ++ " bytes)"

/-- Whether lines show the first three lines of the sample table as it is served, between a title
and dots, if the table is registered, and are none if it is not. -/
def Previews (catalogue : Catalogue) (preview : List String) : Prop :=
  (samplePath ∉ catalogue.paths → preview = []) ∧
    (samplePath ∈ catalogue.paths → ∃ reply lines, catalogue.Serves samplePath reply ∧
      Lines.Cut (Utf8.decodeLossy reply.body).toList lines ∧
      preview = "CSV data preview:" ::
        ((lines.take 3).map (fun line => "  " ++ String.ofList line) ++ ["  ..."]))

theorem exists_lookup (registered : path ∈ catalogue.paths) :
    ∃ resource, catalogue.lookup path = some resource := by
  apply Option.ne_none_iff_exists'.mp
  rw [Ne, lookup_eq_none_iff, not_not]
  exact registered

theorem serves_whole {resource : Resource} (found : catalogue.lookup path = some resource) :
    catalogue.Serves path (.whole resource) := by
  intro policy
  rw [Catalogue.reply, found]
  rfl

end Catalogue

namespace Banner

variable {catalogue : Catalogue}

/-! ## The parts of the banner -/

theorem advertises_endpointLine {path : String} {resource : Resource}
    (found : catalogue.lookup path = some resource) :
    catalogue.Advertises path (endpointLine path resource) :=
  ⟨.whole resource, resource.mediaType, Decimal.text resource.size, Catalogue.serves_whole found,
    Reply.mediaType_whole resource, Reply.contentLength_whole resource, rfl⟩

/-- However many paths are gone through, each of them has its line. -/
theorem advertises_each {paths : List String}
    (registered : ∀ path ∈ paths, path ∈ catalogue.paths) :
    List.Forall₂ catalogue.Advertises paths
      (paths.filterMap fun path => (catalogue.lookup path).map (endpointLine path)) := by
  induction paths with
  | nil => exact .nil
  | cons path rest ih =>
      rcases Catalogue.exists_lookup (registered path List.mem_cons_self) with ⟨resource, found⟩
      rw [List.filterMap_cons, found]
      apply List.Forall₂.cons
      · exact advertises_endpointLine found
      · exact ih fun path mem => registered path (List.mem_cons_of_mem _ mem)

theorem advertises_endpointLines (catalogue : Catalogue) :
    List.Forall₂ catalogue.Advertises catalogue.paths (endpointLines catalogue) :=
  advertises_each fun _ registered => registered

theorem previews_previewLines (catalogue : Catalogue) :
    catalogue.Previews (previewLines catalogue) := by
  constructor
  · intro unregistered
    rw [previewLines, Catalogue.lookup_eq_none_iff.mpr unregistered]
  · intro registered
    rcases Catalogue.exists_lookup registered with ⟨resource, found⟩
    have cut := Lines.cut_after List.not_mem_nil (Utf8.decodeLossy resource.content).toList
    refine ⟨.whole resource, _, Catalogue.serves_whole found, cut, ?_⟩
    simp [previewLines, found, Lines.ofText, previewLength, List.map_take, Function.comp_def]

/-- The lines in front of those about paths. -/
def opening (endpoint : Endpoint) (settings : Settings) : List String :=
  [rule, "Range fixture server started", "Listening on: http://" ++ endpoint.text] ++
    settingLines settings ++ ["Available endpoints:"]

/-- The lines behind those about paths and the preview. -/
def closing : List String := [rule ++ "\n"]

/-! ## The banner in the log -/

variable {journal : Journal}

theorem writeAll_of_dropped {messages : List Message}
    (dropped : ∀ message ∈ messages, Journal.target? journal.writer message.kind = none) :
    journal.writeAll messages = journal := by
  induction messages with
  | nil => rfl
  | cons message rest ih =>
      have same : journal.write message = journal := by
        rw [Journal.write, dropped message List.mem_cons_self]
      rw [Journal.writeAll, List.foldl_cons, same]
      exact ih fun other mem => dropped other (List.mem_cons_of_mem _ mem)

theorem bytes_writeAll_info (ready : journal.Ready) {access target : LogTarget}
    (route : Journal.target? journal.writer .info = some access) (texts : List String) :
    (journal.writeAll (texts.map Message.info)).outputs.bytes target =
      journal.outputs.bytes target ++
        if target = access then texts.flatMap fun text => Utf8.encode text ++ [0x0A] else [] := by
  rw [Journal.bytes_writeAll ready, List.flatMap_map]
  congr 1
  by_cases isAccess : target = access
  · subst isAccess
    simp [Message.info, route, Journal.line_eq]
  · simp [Message.info, route, isAccess, Ne.symm isAccess]

/-- In a log that keeps everything, the banner has exactly one line for each registration, in their
order, with the media type and the length of the reply for its path, and a preview of the sample
table as it is served. At any other level nothing is written. -/
theorem advertises_what_is_served (files : FileTree) (calls : List LogCall) {writer : LogWriter}
    (isSet : ((Journal.unset files).run calls).writer = some writer) (endpoint : Endpoint)
    (settings : Settings) (catalogue : Catalogue) :
    let journal := (Journal.unset files).run calls
    let announced := journal.writeAll (messages endpoint settings catalogue)
    (writer.level ≠ .info → announced = journal) ∧
      (writer.level = .info → ∃ endpoints preview,
        List.Forall₂ catalogue.Advertises catalogue.paths endpoints ∧
        catalogue.Previews preview ∧
        ∀ target, announced.outputs.bytes target = journal.outputs.bytes target ++
          if target = writer.access then
            (opening endpoint settings ++ endpoints ++ preview ++ closing).flatMap fun text =>
              Utf8.encode text ++ [0x0A]
          else []) := by
  intro journal announced
  have route : Journal.target? journal.writer .info =
      if writer.level = .info then some writer.access else none := by
    rw [isSet, Journal.target?_some]
    rfl
  constructor
  · intro notInfo
    apply writeAll_of_dropped
    intro message mem
    rcases List.mem_map.mp mem with ⟨text, -, rfl⟩
    exact route.trans (if_neg notInfo)
  · intro isInfo
    have ready : journal.Ready := (Journal.ready_unset files).run calls
    have goes := route.trans (if_pos isInfo)
    refine ⟨endpointLines catalogue, previewLines catalogue, advertises_endpointLines catalogue,
      previews_previewLines catalogue, ?_⟩
    intro target
    exact bytes_writeAll_info ready goes (lines endpoint settings catalogue)

/-- The sample table is registered twice, and a log on standard output keeps everything. -/
theorem advertises_what_is_served_twice :
    let endpoint : Endpoint := ⟨.v4 .any, 8000⟩
    let settings : Settings :=
      ⟨⟨"0.0.0.0", 8000, none⟩, ⟨"info", true, "combined", none, none⟩, ⟨75, 30, 30, none⟩,
        ⟨.unsatisfiable⟩⟩
    let catalogue : Catalogue :=
      ⟨[("/data.csv", ⟨[0x61, 0x0D, 0x0A, 0x62], "text/csv"⟩),
        ("/data.csv", ⟨[0x63], "text/plain"⟩)]⟩
    let journal := (Journal.unset ⟨[], []⟩).run [.setUp settings.logging]
    journal.writer = some ⟨.output, .errorOutput, .info⟩ ∧
      ∃ endpoints preview,
        List.Forall₂ catalogue.Advertises ["/data.csv", "/data.csv"] endpoints ∧
        catalogue.Previews preview ∧
        (journal.writeAll (messages endpoint settings catalogue)).outputs.output =
          (opening endpoint settings ++ endpoints ++ preview ++ closing).flatMap fun text =>
            Utf8.encode text ++ [0x0A] := by
  intro endpoint settings catalogue journal
  have isSet : journal.writer = some ⟨.output, .errorOutput, .info⟩ := by cbv
  have silent : journal.outputs.output = [] := by cbv
  rcases (advertises_what_is_served ⟨[], []⟩ [.setUp settings.logging] isSet endpoint settings
    catalogue).2 rfl with ⟨endpoints, preview, advertised, previewed, bytes⟩
  refine ⟨isSet, endpoints, preview, advertised, previewed, ?_⟩
  have written := bytes .output
  rw [if_pos rfl] at written
  exact written.trans (congrArg (· ++ _) silent)

end Banner

end RangeServer
