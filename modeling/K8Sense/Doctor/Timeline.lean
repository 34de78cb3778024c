import K8Sense.Library.Ranked
import K8Sense.Library.Text

/-! What has changed in a cluster: the audit log, the events and the findings of the
latest scan, merged into one stream, newest first. -/

namespace K8Sense.Doctor.Timeline

def maxTimelineEntries : Nat := 300

/-- Seconds of an instant, which is counted in nanoseconds from 1970. -/
def unix (time : Int) : Int := time / 1000000000

/-- The zero `time.Time`. -/
def zeroTime : Int := -62135596800 * 1000000000

inductive EntryType where
  | action
  | event
  | finding
  deriving DecidableEq

structure Entry where
  time : Int
  type : EntryType
  level : String
  title : String
  detail : String := ""
  actor : String := ""
  «namespace» : String
  resourceKind : String
  resourceName : String
  deriving DecidableEq

structure Opts where
  «namespace» : String
  resource : String
  since : Int

structure AuditEntry where
  actor : String
  action : String
  «namespace» : String
  resourceKind : String
  resourceName : String
  result : String
  error : String
  performedAt : Int

structure InvolvedObject where
  «namespace» : String
  kind : String
  name : String

structure Event where
  type : String
  reason : String
  message : String
  count : Int
  lastTimestamp : Int
  eventTime : Int
  involvedObject : InvolvedObject

structure Finding where
  ruleName : String
  severity : String
  description : String
  «namespace» : String
  resourceKind : String
  resourceName : String
  detectedAt : Int

def actionTitles : List (String × String) :=
  [("scale_deployment", "Scaled deployment"), ("restart_deployment", "Restarted deployment"), ("delete_pod", "Deleted pod"),
    ("delete_job", "Deleted job"), ("uncordon_node", "Uncordoned node"), ("cordon_node", "Cordoned node"), ("POST /scan", "Ran a scan"),
    ("POST /scan/multi", "Ran a scan")]

/-- `humanizeAction`, on the characters of the action. -/
def humanize : List Char → String
  | 'r' :: 'e' :: 'v' :: 'e' :: 'r' :: 't' :: '_' :: rest => "Reverted: " ++ humanize rest
  | action => (actionTitles.lookup (String.ofList action)).getD (String.ofList action)

def humanizeAction (action : String) : String := humanize action.toList

def auditToEntry (audit : AuditEntry) : Entry where
  time := audit.performedAt
  type := .action
  level := if audit.result = "failed" then "warning" else "info"
  title := humanizeAction audit.action
  detail := audit.error
  actor := audit.actor
  «namespace» := audit.namespace
  resourceKind := audit.resourceKind
  resourceName := audit.resourceName

def eventToEntry (event : Event) : Entry where
  time := unix (if event.lastTimestamp = zeroTime then event.eventTime else event.lastTimestamp)
  type := .event
  level := if event.type = "Warning" then "warning" else "info"
  title := if event.count > 1 then event.reason ++ " (x" ++ toString event.count ++ ")" else event.reason
  detail := event.message
  «namespace» := event.involvedObject.namespace
  resourceKind := event.involvedObject.kind
  resourceName := event.involvedObject.name

/-- `sort.Slice` by the time, which may leave entries of one time in any order. -/
structure Sorter where
  sort : List Entry → List Entry
  perm : ∀ entries, (sort entries).Perm entries
  newestFirst : ∀ entries, (sort entries).Pairwise fun entry other => other.time ≤ entry.time

section
variable (toLower : String → String)

def findingToEntry (finding : Finding) : Entry where
  time := unix finding.detectedAt
  type := .finding
  level := toLower finding.severity
  title := finding.ruleName
  detail := finding.description
  «namespace» := finding.namespace
  resourceKind := finding.resourceKind
  resourceName := finding.resourceName

def appendIfMatch (opts : Opts) (out : List Entry) (entry : Entry) : List Entry :=
  if entry.time = 0 ∨ entry.time < unix opts.since then out
  else if opts.namespace ≠ "" ∧ entry.namespace ≠ opts.namespace then out
  else if opts.resource ≠ "" ∧ Text.contains (toLower entry.resourceName).toList (toLower opts.resource).toList = false then out
  else out ++ [entry]

def mergeTimeline (sorter : Sorter) (audits : List AuditEntry) (events : List Event) (findings : List Finding) (opts : Opts) :
    List Entry :=
  let out := (audits.map auditToEntry).foldl (appendIfMatch toLower opts) []
  let out := (events.map eventToEntry).foldl (appendIfMatch toLower opts) out
  let out := (findings.map (findingToEntry toLower)).foldl (appendIfMatch toLower opts) out
  let out := sorter.sort out
  if out.length > maxTimelineEntries then out.take maxTimelineEntries else out

def entries (audits : List AuditEntry) (events : List Event) (findings : List Finding) : List Entry :=
  audits.map auditToEntry ++ events.map eventToEntry ++ findings.map (findingToEntry toLower)

/-- The entry is in the window, by the second, and passes the filter. -/
def matching (opts : Opts) (entry : Entry) : Bool :=
  unix opts.since ≤ entry.time && (opts.namespace = "" || entry.namespace = opts.namespace) &&
    (opts.resource = "" || Text.contains (toLower entry.resourceName).toList (toLower opts.resource).toList)

end

/-- The stream is the wanted entries, newest first, and the newest of them where there
are too many. -/
structure Merged (result wanted : List Entry) : Prop where
  ordered : result.Pairwise fun entry other => other.time ≤ entry.time
  whole : wanted.length ≤ maxTimelineEntries → result.Perm wanted
  newest : maxTimelineEntries < wanted.length → result.length = maxTimelineEntries ∧
    ∃ dropped, (result ++ dropped).Perm wanted ∧ ∀ kept ∈ result, ∀ other ∈ dropped, other.time ≤ kept.time

variable {toLower : String → String} {opts : Opts}

theorem appendIfMatch_eq (out : List Entry) (entry : Entry) : appendIfMatch toLower opts out entry =
    out ++ [entry].filter fun entry => matching toLower opts entry && entry.time ≠ 0 := by
  unfold appendIfMatch matching
  grind

theorem foldl_match (out items : List Entry) : items.foldl (appendIfMatch toLower opts) out =
    out ++ items.filter fun entry => matching toLower opts entry && entry.time ≠ 0 := by
  induction items generalizing out with
  | nil => simp
  | cons entry rest ih => rw [List.foldl_cons, ih, appendIfMatch_eq, List.append_assoc, ← List.filter_append, List.singleton_append]

theorem merged_of_sorted {out : List Entry} (sorter : Sorter) :
    Merged (if (sorter.sort out).length > maxTimelineEntries then (sorter.sort out).take maxTimelineEntries else sorter.sort out) out := by
  have length := (sorter.perm out).length_eq
  have ordered := sorter.newestFirst out
  refine ⟨?_, ?_, ?_⟩
  · split
    · exact ordered.sublist (List.take_sublist _ _)
    · exact ordered
  · intro few
    rw [if_neg (by omega)]
    exact sorter.perm out
  · intro many
    rw [if_pos (by omega)]
    refine ⟨?_, (sorter.sort out).drop maxTimelineEntries, ?_, ?_⟩
    · rw [List.length_take]
      omega
    · rw [List.take_append_drop]
      exact sorter.perm out
    · intro kept inside other outside
      rw [← List.take_append_drop maxTimelineEntries (sorter.sort out)] at ordered
      exact (List.pairwise_append.mp ordered).2.2 kept inside other outside

/-- The timeline loses nothing but what is too much, and the entries at the epoch. -/
theorem mergeTimeline_merged (toLower : String → String) (sorter : Sorter) (audits : List AuditEntry) (events : List Event)
    (findings : List Finding) (opts : Opts) : Merged (mergeTimeline toLower sorter audits events findings opts)
      ((entries toLower audits events findings).filter fun entry => matching toLower opts entry && entry.time ≠ 0) := by
  have out : (findings.map (findingToEntry toLower)).foldl (appendIfMatch toLower opts)
      ((events.map eventToEntry).foldl (appendIfMatch toLower opts) ((audits.map auditToEntry).foldl (appendIfMatch toLower opts) [])) =
      (entries toLower audits events findings).filter fun entry => matching toLower opts entry && entry.time ≠ 0 := by
    simp only [foldl_match, entries, List.filter_append, List.nil_append]
  rw [mergeTimeline, out]
  exact merged_of_sorted sorter

private def stable : Sorter where
  sort entries := entries.mergeSort fun entry other => other.time ≤ entry.time
  perm entries := List.mergeSort_perm entries _
  newestFirst entries := by
    apply Ranked.pairwise_sorted
    · intro first second third upper lower
      omega
    · intro first second
      omega

/-- An event of the first second of 1970, and a window that begins a minute before. -/
private def atEpoch : Event := ⟨"Normal", "Started", "", 1, 0, zeroTime, ⟨"shop", "Pod", "web"⟩⟩

theorem epoch_entry_lost : ¬∀ toLower sorter audits events findings opts, Merged (mergeTimeline toLower sorter audits events findings opts)
    ((entries toLower audits events findings).filter (matching toLower opts)) := by
  intro all
  have merged := all id stable [] [atEpoch] [] ⟨"", "", -60000000000⟩
  have lost : mergeTimeline id stable [] [atEpoch] [] ⟨"", "", -60000000000⟩ = [] := by
    simp [mergeTimeline, appendIfMatch, eventToEntry, atEpoch, unix, zeroTime, stable]
  have length := (merged.whole (by decide)).length_eq
  rw [lost] at length
  revert length
  decide

end K8Sense.Doctor.Timeline
