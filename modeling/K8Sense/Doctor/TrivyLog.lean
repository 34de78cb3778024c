import K8Sense.Doctor.VulnReport

/-! The log of the scanning job and what is read back from it. The job prints one
block for each line that its shell reads, which leaves out a last line without an
end. -/

namespace K8Sense.Doctor.VulnScan
open Text

/-- A reference to an image has no blanks. -/
structure Image where
  text : String
  named : text ≠ ""
  solid : ∀ char ∈ text.toList, isSpace char = false

def isMarker (line : String) : Bool := imageMarker.toList.isPrefixOf line.toList || trimSpace line = endMarker

/-- What the scanner prints for an image, or the error that stands for it. -/
structure Output where
  text : String
  plain : ∀ line ∈ split '\n' text, isMarker line = false

/-- `read` fails on a last line that has no end. -/
def readLines (file : String) : List String := (split '\n' file).dropLast

/-- The images of the scan as they are put into `images.txt`. -/
def imagesFile (images : List Image) : String := join '\n' (images.map Image.text)

section
variable (output : String → Output)

/-- The body of the loop of the job. -/
def printed (line : String) : String :=
  if line = "" then "" else concat "" [imageMarker, line, "\n", (output line).text, endMarker, "\n"]

def logOf (lines : List String) : String := concat "" (lines.map (printed output))

def jobLog (file : String) : String := logOf output (readLines file)

/-- The log is split into one block for each image, with its output. -/
def Complete (images : List Image) : Prop :=
  splitImageBlocks (jobLog output (imagesFile images)) = images.map fun image => ⟨image.text, (output image.text).text⟩

/-- The images whose marker is among the first characters of the log. -/
def started : List String → Nat → List String
  | [], _ => []
  | line :: rest, count =>
    if line = "" then started rest count
    else if (imageMarker ++ line).length ≤ count then line :: started rest (count - (printed output line).length)
    else []

/-- A log that is cut off has one result for each image that was started, and that
of the last one is an error if its block is not whole, which does not need the line
end behind the end marker. -/
structure Survives (env : Env) (namespaces : String → List String) (images : List Image) (count : Nat) : Prop where
  each : ((buildVulnReport env (String.ofList ((jobLog output (imagesFile images)).toList.take count)) namespaces).images.map
    ImageResult.image).Perm (started output (readLines (imagesFile images)) count)
  incomplete : ∀ front last, started output (readLines (imagesFile images)) count = front ++ [last] →
    count + 1 < (logOf output (front ++ [last])).length →
    ∃ result ∈ (buildVulnReport env (String.ofList ((jobLog output (imagesFile images)).toList.take count)) namespaces).images,
      result.image = last ∧ result.error ≠ ""

end

/-- The last image is not read, and so it is not scanned. -/
theorem readLines_images (images : List Image) : readLines (imagesFile images) = (images.map Image.text).dropLast := by
  unfold readLines imagesFile
  by_cases empty : images = []
  · subst empty
    rfl
  · rw [split_join (by simpa using empty)]
    intro text member newline
    obtain ⟨image, _, rfl⟩ := List.mem_map.mp member
    exact absurd (image.solid '\n' newline) (by decide)

/-- A line that can stand for an image. -/
def IsImage (line : String) : Prop := line ≠ "" ∧ ∀ char ∈ line.toList, isSpace char = false

theorem isImage_of_mem {images : List Image} {line : String} (member : line ∈ readLines (imagesFile images)) : IsImage line := by
  rw [readLines_images] at member
  obtain ⟨image, _, rfl⟩ := List.mem_map.mp (List.mem_of_mem_dropLast member)
  exact ⟨image.named, image.solid⟩

section
variable (output : String → Output)

/-- The lines that are printed for an image. -/
def blockLines (line : String) : List String := (imageMarker ++ line) :: split '\n' ((output line).text ++ endMarker)

theorem split_cons (front back : String) : split '\n' (concat "" [front, "\n", back]) = split '\n' front ++ split '\n' back := by
  rw [split, concat_empty_toList]
  simp [split, List.splitOn_append_cons_self]

theorem split_solid {line : String} (image : IsImage line) : split '\n' (imageMarker ++ line) = [imageMarker ++ line] := by
  rw [split, List.splitOn_eq_singleton]
  · simp
  · rw [String.toList_append, List.mem_append, not_or]
    refine ⟨by decide, fun newline => ?_⟩
    exact absurd (image.2 '\n' newline) (by decide)

theorem logOf_cons {line : String} (image : IsImage line) (rest : List String) : (logOf output (line :: rest)).toList =
    (imageMarker ++ line).toList ++
      ((concat "" ["\n", (output line).text, endMarker, "\n"]).toList ++ (logOf output rest).toList) := by
  simp [logOf, concat_empty_toList, printed, image.1]

theorem split_log {lines : List String} (images : ∀ line ∈ lines, IsImage line) :
    split '\n' (logOf output lines) = lines.flatMap (blockLines output) ++ [""] := by
  induction lines with
  | nil => rfl
  | cons line rest ih =>
    rw [List.forall_mem_cons] at images
    have whole : logOf output (line :: rest) =
        concat "" [imageMarker ++ line, "\n", concat "" [(output line).text ++ endMarker, "\n", logOf output rest]] := by
      apply String.toList_injective
      rw [logOf_cons output images.1]
      simp [concat_empty_toList]
    rw [whole, split_cons, split_cons, split_solid images.1, ih images.2, List.flatMap_cons, List.append_assoc]
    rfl

end

/-! No more blocks are read than images were printed. -/

def isStart (line : String) : Bool := imageMarker.toList.isPrefixOf line.toList

/-- The blocks that are there or begun. -/
def begun (state : Splitting) : Nat := state.blocks.length + if state.current.isSome then 1 else 0

theorem begun_splitLine (state : Splitting) (line : String) :
    begun (splitLine state line) ≤ begun state + if isStart line then 1 else 0 := by
  unfold splitLine isStart begun
  split
  · simp
  · split
    · cases current : state.current <;> simp [current]
    · cases current : state.current <;> simp [current]

theorem begun_lines (lines : List String) (state : Splitting) :
    begun (lines.foldl splitLine state) ≤ begun state + lines.countP isStart := by
  induction lines generalizing state with
  | nil => simp
  | cons line rest ih =>
    have step := begun_splitLine state line
    have later := ih (splitLine state line)
    rw [List.foldl_cons, List.countP_cons]
    omega

theorem blocks_le (logs : String) : (splitImageBlocks logs).length ≤ (split '\n' logs).countP isStart := by
  have bound := begun_lines (split '\n' logs) {}
  unfold begun at bound
  unfold splitImageBlocks
  simp only [List.length_nil, Option.isSome_none, Bool.false_eq_true, if_false] at bound
  omega

theorem start_glued {line : String} (plain : isStart line = false) : isStart (line ++ endMarker) = false := by
  rw [isStart, ← Bool.not_eq_true, List.isPrefixOf_iff_prefix] at plain ⊢
  rintro ⟨rest, same⟩
  rw [String.toList_append, List.append_eq_append_iff] at same
  rcases same with ⟨middle, before, _⟩ | ⟨middle, start, glued⟩
  · exact plain ⟨middle, before.symm⟩
  · -- the marker would have to go on with the beginning of the end marker
    have tail : middle ∈ imageMarker.toList.tails := by
      rw [List.mem_tails]
      exact ⟨line.toList, start.symm⟩
    have within : middle.isPrefixOf endMarker.toList = true := List.isPrefixOf_iff_prefix.mpr ⟨rest, glued.symm⟩
    have none : ∀ middle ∈ imageMarker.toList.tails, middle.isPrefixOf endMarker.toList = true → middle = [] := by decide
    rw [none middle tail within, List.append_nil] at start
    exact plain ⟨[], by rw [List.append_nil, start]⟩

theorem split_glued (text : String) : ∃ front last, split '\n' text = front ++ [last] ∧
    split '\n' (text ++ endMarker) = front ++ [last ++ endMarker] := by
  have free : '\n' ∉ endMarker.toList := by decide
  obtain ⟨front, last, pieces, longer⟩ := splitOn_append_free text.toList endMarker.toList free
  refine ⟨front.map String.ofList, String.ofList last, ?_, ?_⟩
  · rw [split, pieces, List.map_append]
    rfl
  · rw [split, String.toList_append, longer, List.map_append, List.map_singleton, String.ofList_append, String.ofList_toList]

theorem output_starts (output : Output) : (split '\n' (output.text ++ endMarker)).countP isStart = 0 := by
  obtain ⟨front, last, pieces, glued⟩ := split_glued output.text
  have plain : ∀ line ∈ front ++ [last], isStart line = false := by
    intro line member
    have none := output.plain line (pieces ▸ member)
    rw [isMarker, Bool.or_eq_false_iff] at none
    exact none.1
  rw [glued, List.countP_eq_zero]
  intro line member
  rcases List.mem_append.mp member with early | final
  · simp [plain line (List.mem_append_left _ early)]
  · obtain rfl := List.mem_singleton.mp final
    simp [start_glued (plain last (by simp))]

theorem log_starts (output : String → Output) {lines : List String} (images : ∀ line ∈ lines, IsImage line) :
    (split '\n' (logOf output lines)).countP isStart = lines.length := by
  rw [split_log output images, List.countP_append]
  clear images
  induction lines with
  | nil => rfl
  | cons line rest ih =>
    have start : isStart (imageMarker ++ line) = true := by simp [isStart]
    rw [List.flatMap_cons, List.countP_append, blockLines, List.countP_cons, start, output_starts, List.length_cons, ← ih]
    simp
    omega

theorem complete_iff (output : String → Output) (images : List Image) : Complete output images ↔ images = [] := by
  constructor
  · intro complete
    have bound := blocks_le (jobLog output (imagesFile images))
    rw [complete, jobLog, log_starts output (fun line => isImage_of_mem), readLines_images, List.length_dropLast,
      List.length_map, List.length_map] at bound
    by_contra some
    have positive := List.length_pos_iff.mpr some
    omega
  · rintro rfl
    rfl

/-! What was printed is read back where every output has its line ends. -/

/-- The output is empty or ends with a line end. -/
def Terminated (text : String) : Prop := (split '\n' text).getLast? = some ""

theorem splitLine_start {name : String} (image : IsImage name) (state : Splitting) :
    splitLine state (imageMarker ++ name) = { state with current := some (name, "") } := by
  rw [splitLine, if_pos (by simp), trimPrefix_append, trimSpace_free image.2]

theorem splitLine_plain {lines : List String} (plain : ∀ line ∈ lines, isMarker line = false) (blocks : List ImageBlock)
    (name body : String) : lines.foldl splitLine ⟨blocks, some (name, body)⟩ =
      ⟨blocks, some (name, body ++ concat "" (lines.map fun line => concat "" [line, "\n"]))⟩ := by
  induction lines generalizing body with
  | nil => simp [concat]
  | cons line rest ih =>
    rw [List.forall_mem_cons, isMarker, Bool.or_eq_false_iff, decide_eq_false_iff_not] at plain
    rw [List.foldl_cons, splitLine, if_neg (by simp [plain.1.1]), if_neg plain.1.2]
    rw [ih plain.2]
    congr 3
    apply String.toList_injective
    simp [concat_empty_toList]

theorem body_of_terminated {text : String} {front : List String} (pieces : split '\n' text = front ++ [""]) :
    concat "" (front.map fun line => concat "" [line, "\n"]) = text := by
  rw [← join_split '\n' text, pieces]
  clear pieces
  apply String.toList_injective
  induction front with
  | nil => rfl
  | cons line rest ih =>
    rw [List.cons_append, join_cons (by simp), ← ih]
    simp [concat_empty_toList]

theorem splitLine_block {output : String → Output} {name : String} (image : IsImage name)
    (terminated : Terminated (output name).text) (blocks : List ImageBlock) (current : Option (String × String)) :
    (blockLines output name).foldl splitLine ⟨blocks, current⟩ = ⟨blocks ++ [⟨name, (output name).text⟩], none⟩ := by
  obtain ⟨front, last, pieces, glued⟩ := split_glued (output name).text
  have empty : last = "" := by
    rw [Terminated, pieces, List.getLast?_concat] at terminated
    exact Option.some.inj terminated
  subst empty
  have plain : ∀ line ∈ front, isMarker line = false := by
    intro line member
    exact (output name).plain line (pieces ▸ List.mem_append_left _ member)
  have ends : splitLine ⟨blocks, some (name, (output name).text)⟩ ("" ++ endMarker) =
      ⟨blocks ++ [⟨name, (output name).text⟩], none⟩ := by
    rw [splitLine, if_neg (by decide), if_pos (by decide)]
  rw [blockLines, List.foldl_cons, splitLine_start image, glued, List.foldl_append, splitLine_plain plain,
    body_of_terminated pieces, String.empty_append]
  exact ends

/-- The blocks are those of the images that were printed, with their outputs. -/
theorem blocks_printed {output : String → Output} {lines : List String} (images : ∀ line ∈ lines, IsImage line)
    (terminated : ∀ line ∈ lines, Terminated (output line).text) :
    splitImageBlocks (logOf output lines) = lines.map fun line => ⟨line, (output line).text⟩ := by
  have blocks : ∀ blocks : List ImageBlock, (lines.flatMap (blockLines output)).foldl splitLine ⟨blocks, none⟩ =
      ⟨blocks ++ lines.map fun line => ⟨line, (output line).text⟩, none⟩ := by
    induction lines with
    | nil => simp
    | cons line rest ih =>
      intro blocks
      rw [List.forall_mem_cons] at images terminated
      rw [List.flatMap_cons, List.foldl_append, splitLine_block images.1 terminated.1, ih images.2 terminated.2]
      simp
  rw [splitImageBlocks, split_log output images, List.foldl_append, blocks]
  rfl

theorem blocks_printed_nginx : splitImageBlocks (logOf (fun _ => ⟨"clean\n", by decide⟩) ["nginx", "redis"]) =
    [⟨"nginx", "clean\n"⟩, ⟨"redis", "clean\n"⟩] := by
  have visible : ["nginx", "redis"].all (fun line => line != "" && line.toList.all fun char => !isSpace char) = true := by decide
  apply blocks_printed
  · simpa [IsImage] using visible
  · intro _ _
    unfold Terminated
    decide

section
variable (output : String → Output) (env : Env) (namespaces : String → List String)

theorem report_nothing {logs : String} (nothing : splitImageBlocks logs = []) :
    (buildVulnReport env logs namespaces).images = [] := by
  have images := report_images env namespaces logs
  rw [nothing] at images
  exact images.eq_nil

theorem marker_alone {name : String} (image : IsImage name) : splitImageBlocks (imageMarker ++ name) = [] := by
  rw [splitImageBlocks, split_solid image, List.foldl_cons, splitLine_start image]
  rfl

theorem survives_iff (images : List Image) : (∀ count, Survives output env namespaces images count) ↔ images.length ≤ 1 := by
  constructor
  · intro survives
    by_contra several
    obtain ⟨first, second, rest, rfl⟩ : ∃ first second rest, images = first :: second :: rest := by
      match images, several with
      | [], several => exact absurd (Nat.zero_le 1) several
      | [_], several => exact absurd (Nat.le_refl 1) several
      | first :: second :: rest, _ => exact ⟨first, second, rest, rfl⟩
    have read : readLines (imagesFile (first :: second :: rest)) = first.text :: ((second :: rest).map Image.text).dropLast := by
      rw [readLines_images]
      rfl
    have image : IsImage first.text := ⟨first.named, first.solid⟩
    have each := (survives (imageMarker ++ first.text).length).each
    have cut : String.ofList ((jobLog output (imagesFile (first :: second :: rest))).toList.take
        (imageMarker ++ first.text).length) = imageMarker ++ first.text := by
      rw [jobLog, read, logOf_cons output image, ← String.length_toList, List.take_left, String.ofList_toList]
    rw [cut, report_nothing env namespaces (marker_alone image), read, started, if_neg image.1, if_pos (Nat.le_refl _)] at each
    exact absurd each.length_eq (by simp)
  · intro few count
    have read : readLines (imagesFile images) = [] := by
      rw [readLines_images, ← List.length_eq_zero_iff, List.length_dropLast, List.length_map]
      omega
    have cut : String.ofList ((jobLog output (imagesFile images)).toList.take count) = "" := by
      rw [jobLog, read]
      simp [logOf, concat]
    have nothing := report_nothing env namespaces (show splitImageBlocks "" = [] from rfl)
    constructor
    · rw [cut, nothing, read]
      exact List.Perm.nil
    · intro front last begun
      rw [read] at begun
      simp [started] at begun

/-- Of a log and all its beginnings, every image that was started has a result
exactly when there is no image. -/
theorem reported_iff (images : List Image) :
    (Complete output images ∧ ∀ count, Survives output env namespaces images count) ↔ images = [] := by
  rw [complete_iff, survives_iff]
  constructor
  · exact And.left
  · rintro rfl
    exact ⟨rfl, Nat.zero_le 1⟩

end

private def nginx : Image where
  text := "nginx:1.0"
  named := by decide
  solid := by
    have visible : "nginx:1.0".toList.all (fun char => !isSpace char) = true := by decide
    simpa only [List.all_eq_true, Bool.not_eq_true'] using visible

/-- The only image of a scan is not scanned. -/
theorem sole_image_lost :
    ¬∀ (output : String → Output) (env : Env) (namespaces : String → List String) (images : List Image),
      Complete output images ∧ ∀ count, Survives output env namespaces images count := by
  intro sound
  have complete := (sound (fun _ => ⟨"", by decide⟩) ⟨fun _ => none, id⟩ (fun _ => []) [nginx]).1
  exact absurd ((complete_iff _ _).mp complete) (List.cons_ne_nil _ _)

end K8Sense.Doctor.VulnScan
