import ApiStyle.Yaml.Lexer
import ApiStyle.Proofs.Results

/-! How far a lexer looks ahead does not matter. Tokens are read and queued until no key can be put before the first of
them, and keys are given up when they are found to be too old. Whatever was taken from the queue meanwhile, the tokens
that are handed out are those that reading to the end would leave in it. -/

namespace ApiStyle.Yaml

/-- A place in the text that does not lie before another one. -/
def Cursor.Reaches (first last : Cursor) : Prop :=
  first.position.line ≤ last.position.line ∧ first.position.index ≤ last.position.index

namespace Cursor.Reaches

theorem refl (cursor : Cursor) : cursor.Reaches cursor := ⟨Nat.le_refl _, Nat.le_refl _⟩

theorem trans {first middle last : Cursor} (one : first.Reaches middle) (two : middle.Reaches last) :
    first.Reaches last :=
  ⟨Nat.le_trans one.1 two.1, Nat.le_trans one.2 two.2⟩

theorem advance (cursor : Cursor) (count : Nat) : cursor.Reaches (cursor.advance count) :=
  ⟨Nat.le_refl _, Nat.le_add_right _ _⟩

theorem skip (cursor : Cursor) (test : Char → Bool) : cursor.Reaches (cursor.skip test) := advance _ _

theorem skipComment (cursor : Cursor) : cursor.Reaches cursor.skipComment := by
  unfold Cursor.skipComment
  split
  · exact skip _ _
  · exact refl _

theorem takeBreak (cursor : Cursor) : cursor.Reaches cursor.takeBreak.2 := by
  unfold Cursor.takeBreak
  split
  · exact ⟨Nat.le_succ _, Nat.le_add_right _ _⟩
  · split
    · exact ⟨Nat.le_succ _, Nat.le_add_right _ _⟩
    · exact refl _
  · exact refl _

end Cursor.Reaches

namespace Lexer

/-- A lexer before it gave its last token away. -/
def preceded (lexer : Lexer) (placed : Placed) : Lexer :=
  { lexer with queue := placed :: lexer.queue, taken := lexer.taken - 1 }

section

variable (lexer : Lexer) (placed : Placed)

@[simp] theorem preceded_cursor : (lexer.preceded placed).cursor = lexer.cursor := rfl

@[simp] theorem preceded_pending : (lexer.preceded placed).pending = lexer.pending := rfl

@[simp] theorem preceded_inFlow : (lexer.preceded placed).inFlow = lexer.inFlow := rfl

end

/-- No token that may be a key has been given away. -/
def Ordered (lexer : Lexer) : Prop := ∀ key, some key ∈ lexer.pending → lexer.taken ≤ key.number

/-- What a step comes to that works behind the queued tokens: it gives none of them away, and it comes to the same if
there is one more of them. -/
structure Trails (lexer : Lexer) (result : Except Malformed Lexer) (shifted : Placed → Except Malformed Lexer) :
    Prop where
  keeps {next} : result = .ok next → next.taken = lexer.taken ∧ next.Ordered
  shifts (placed) : 0 < lexer.taken → shifted placed = result.map (·.preceded placed)

variable {lexer : Lexer}

namespace Trails

theorem error (fault : Malformed) : Trails lexer (.error fault) fun _ => .error fault where
  keeps impossible := by cases impossible
  shifts _ _ := rfl

theorem ok {next : Lexer} {shifted : Placed → Lexer} (taken : next.taken = lexer.taken) (ordered : next.Ordered)
    (shifts : 0 < lexer.taken → ∀ placed, shifted placed = next.preceded placed) :
    Trails lexer (.ok next) fun placed => .ok (shifted placed) where
  keeps same := by
    obtain rfl := Except.ok.inj same
    exact ⟨taken, ordered⟩
  shifts placed some := congrArg Except.ok (shifts some placed)

theorem bind {result : Except Malformed Lexer} {shifted : Placed → Except Malformed Lexer}
    {next : Lexer → Except Malformed Lexer} {other : Placed → Lexer → Except Malformed Lexer}
    (first : Trails lexer result shifted) (rest : ∀ middle, middle.taken = lexer.taken → middle.Ordered →
      Trails middle (next middle) fun placed => other placed (middle.preceded placed)) :
    Trails lexer (result >>= next) fun placed => shifted placed >>= other placed where
  keeps run := by
    obtain ⟨middle, earlier, later⟩ := bind_eq_ok.mp run
    obtain ⟨same, ordered⟩ := first.keeps earlier
    obtain ⟨sameToo, ordered⟩ := (rest middle same ordered).keeps later
    exact ⟨sameToo.trans same, ordered⟩
  shifts placed some := by
    rw [first.shifts placed some]
    cases run : result with
    | error fault => rfl
    | ok middle =>
      obtain ⟨same, ordered⟩ := first.keeps run
      exact (rest middle same ordered).shifts placed (same ▸ some)

theorem choice {condition : Prop} {decides : Decidable condition} {decidesToo : Placed → Decidable condition}
    {one two : Except Malformed Lexer} {oneToo twoToo : Placed → Except Malformed Lexer}
    (yes : condition → Trails lexer one oneToo) (no : ¬ condition → Trails lexer two twoToo) :
    Trails lexer (@ite _ condition decides one two) fun placed =>
      @ite _ condition (decidesToo placed) (oneToo placed) (twoToo placed) := by
  by_cases holds : condition
  · simpa only [if_pos holds] using yes holds
  · simpa only [if_neg holds] using no holds

theorem within {middle : Lexer} {result : Except Malformed Lexer} {shifted : Placed → Except Malformed Lexer}
    (same : middle.taken = lexer.taken) (trails : Trails middle result shifted) : Trails lexer result shifted where
  keeps run := by
    obtain ⟨taken, ordered⟩ := trails.keeps run
    exact ⟨taken.trans same, ordered⟩
  shifts placed some := trails.shifts placed (same ▸ some)

theorem after {α : Type} {program : Except Malformed α} {next : α → Except Malformed Lexer}
    {shifted : α → Placed → Except Malformed Lexer} (rest : ∀ value, Trails lexer (next value) (shifted value)) :
    Trails lexer (program >>= next) fun placed => program >>= fun value => shifted value placed := by
  cases program with
  | error fault => exact error fault
  | ok value => exact rest value

end Trails

/-- A pending key, unless it is too old at a place. -/
def fresh? (cursor : Cursor) (key : Option Pending) : Option Pending := key.filter (!isStale cursor ·)

private theorem dropStale_eq_ok {cursor : Cursor} {pending kept : List (Option Pending)} :
    dropStale cursor pending = .ok kept ↔
    (∀ key, some key ∈ pending → isStale cursor key → key.required = false) ∧ pending.map (fresh? cursor) = kept := by
  induction pending generalizing kept with
  | nil => simp [dropStale]
  | cons first pending ih =>
    cases first with
    | none =>
      have run : dropStale cursor (none :: pending) = (none :: ·) <$> dropStale cursor pending := rfl
      rw [run, map_eq_ok]
      simp [ih, fresh?, and_assoc]
    | some key =>
      have run : dropStale cursor (some key :: pending) = dropStale cursor pending >>= fun rest =>
          if isStale cursor key then
            if key.required then complain .keyWithoutValue cursor.position .simpleKey key.position
            else .ok (none :: rest)
          else .ok (some key :: rest) := by
        cases h : dropStale cursor pending <;> simp only [dropStale, h, bind, Except.bind, pure, Except.pure]
        split
        · split <;> rfl
        · rfl
      rw [run, bind_eq_ok]
      by_cases stale : isStale cursor key
      · by_cases required : key.required
        · simp [stale, required, complain]
        · simp [stale, required, ih, fresh?, Option.filter_some, and_assoc]
      · simp [stale, ih, fresh?, Option.filter_some, and_assoc]

theorem expireKeys_eq (lexer : Lexer) :
    lexer.expireKeys = (fun pending => { lexer with pending }) <$> dropStale lexer.cursor lexer.pending := rfl

theorem expireKeys_eq_ok {next : Lexer} : lexer.expireKeys = .ok next ↔
    (∀ key, some key ∈ lexer.pending → isStale lexer.cursor key → key.required = false) ∧
      { lexer with pending := lexer.pending.map (fresh? lexer.cursor) } = next := by
  rw [expireKeys_eq, map_eq_ok]
  simp only [dropStale_eq_ok]
  constructor
  · rintro ⟨_, ⟨optional, rfl⟩, same⟩
    exact ⟨optional, same⟩
  · rintro ⟨optional, same⟩
    exact ⟨_, ⟨optional, rfl⟩, same⟩

theorem saveKey_of_allowed (lexer : Lexer) (allowed : lexer.keyAllowed) :
    lexer.saveKey = lexer.removeKey >>= fun next =>
    .ok { next with pending := some ⟨lexer.taken + lexer.queue.length, lexer.position,
      !lexer.inFlow && decide (lexer.indent = lexer.cursor.column)⟩ :: next.pending.drop 1 } := by
  rw [saveKey, if_neg (by simp [allowed])]
  rfl

theorem saveKey_of_not_allowed (lexer : Lexer) (closed : ¬ lexer.keyAllowed) : lexer.saveKey = .ok lexer := by
  rw [saveKey, if_pos (by simp [closed])]
  rfl

theorem mem_of_fresh {cursor : Cursor} {pending : List (Option Pending)} {key : Pending}
    (member : some key ∈ pending.map (fresh? cursor)) : some key ∈ pending := by
  obtain ⟨other, inside, same⟩ := List.mem_map.mp member
  obtain ⟨rfl, _⟩ := Option.filter_eq_some_iff.mp same
  exact inside

namespace Ordered

theorem expireKeys (ordered : lexer.Ordered) :
    Trails lexer lexer.expireKeys fun placed => (lexer.preceded placed).expireKeys where
  keeps run := by
    obtain ⟨_, rfl⟩ := expireKeys_eq_ok.mp run
    exact ⟨rfl, fun key member => ordered key (mem_of_fresh member)⟩
  shifts placed _ := by
    rw [expireKeys_eq, expireKeys_eq, preceded_cursor, preceded_pending]
    cases dropStale lexer.cursor lexer.pending <;> rfl

theorem removeKey (ordered : lexer.Ordered) :
    Trails lexer lexer.removeKey fun placed => (lexer.preceded placed).removeKey := by
  unfold Lexer.removeKey
  simp only [preceded_pending]
  split
  next key rest found =>
    split
    · exact .error _
    · refine .ok rfl (fun other member => ordered other ?_) fun _ _ => rfl
      rw [found]
      exact List.mem_cons_of_mem _ (List.mem_of_ne_of_mem (by simp) member)
  next => exact .ok rfl ordered fun _ _ => rfl

theorem saveKey (ordered : lexer.Ordered) :
    Trails lexer lexer.saveKey fun placed => (lexer.preceded placed).saveKey := by
  by_cases allowed : lexer.keyAllowed
  · have shifted (placed) := saveKey_of_allowed (lexer.preceded placed) allowed
    simp only [saveKey_of_allowed lexer allowed, shifted]
    refine ordered.removeKey.bind fun middle same ordered => .ok rfl ?_ fun some placed => ?_
    · intro key member
      rcases List.mem_cons.mp member with new | old
      · obtain rfl := Option.some.inj new
        simp [same]
      · exact ordered key (List.mem_of_mem_drop old)
    · have number : (lexer.preceded placed).taken + (lexer.preceded placed).queue.length =
          lexer.taken + lexer.queue.length := by
        simp only [preceded, List.length_cons]
        omega
      rw [number]
      rfl
  · have shifted (placed) := saveKey_of_not_allowed (lexer.preceded placed) allowed
    simp only [saveKey_of_not_allowed lexer allowed, shifted]
    exact .ok rfl ordered fun _ _ => rfl

theorem of_mem {next : Lexer} (ordered : lexer.Ordered) (taken : next.taken = lexer.taken)
    (pending : ∀ key, some key ∈ next.pending → some key ∈ lexer.pending) : next.Ordered := by
  intro key member
  rw [taken]
  exact ordered key (pending key member)

theorem of_same {next : Lexer} (ordered : lexer.Ordered) (taken : next.taken = lexer.taken)
    (pending : next.pending = lexer.pending) : next.Ordered := ordered.of_mem taken fun _ member => pending ▸ member

end Ordered

/-- Blanks only move the cursor and may allow a key. -/
theorem skipSpace_frame (fuel : Nat) (lexer : Lexer) :
    ∃ cursor keyAllowed, lexer.cursor.Reaches cursor ∧ ∀ other : Lexer,
    other.cursor = lexer.cursor → other.inFlow = lexer.inFlow → other.keyAllowed = lexer.keyAllowed →
      skipSpace fuel other = { other with cursor, keyAllowed } := by
  induction fuel generalizing lexer with
  | zero =>
    refine ⟨lexer.cursor, lexer.keyAllowed, .refl _, fun other cursor _ keyAllowed => ?_⟩
    rw [← cursor, ← keyAllowed, skipSpace]
  | succ fuel ih =>
    let ahead := ((if lexer.cursor.column = 0 ∧ lexer.cursor.starts '\ufeff' then lexer.cursor.advance 1
      else lexer.cursor).skip fun character =>
        character == ' ' || (lexer.inFlow || !lexer.keyAllowed) && character == '\t').skipComment
    have reaches : lexer.cursor.Reaches ahead := by
      refine .trans (.trans ?_ (.skip _ _)) (.skipComment _)
      split
      · exact .advance _ _
      · exact .refl _
    by_cases broken : ahead.sees isBreak
    · obtain ⟨cursor, keyAllowed, further, rest⟩ :=
        ih { lexer with cursor := ahead.takeBreak.2, keyAllowed := lexer.keyAllowed || !lexer.inFlow }
      refine ⟨cursor, keyAllowed, (reaches.trans (.takeBreak _)).trans further,
        fun other sameCursor sameFlow sameAllowed => ?_⟩
      simp only [skipSpace, sameCursor, sameFlow, sameAllowed]
      rw [if_pos broken]
      exact rest _ rfl sameFlow rfl
    · refine ⟨ahead, lexer.keyAllowed, reaches, fun other sameCursor sameFlow sameAllowed => ?_⟩
      simp only [skipSpace, sameCursor, sameFlow, sameAllowed]
      rw [if_neg broken]

private theorem closeBlocks_frame (column : Int) (indents : List Int) (lexer : Lexer) :
    ∃ added indent rest, ∀ other : Lexer,
    other.position = lexer.position → other.indent = lexer.indent → other.indents = lexer.indents →
      closeBlocks column indents other = { other with queue := other.queue ++ added, indent, indents := rest } := by
  induction indents generalizing lexer with
  | nil =>
    refine ⟨[], lexer.indent, lexer.indents, fun other _ indent indents => ?_⟩
    rw [← indent, ← indents, closeBlocks, List.append_nil]
  | cons outer indents ih =>
    by_cases deeper : column < lexer.indent
    · obtain ⟨added, indent, left, rest⟩ :=
        ih { lexer.emit .blockEnd lexer.position lexer.position with indent := outer, indents }
      refine ⟨⟨.blockEnd, lexer.position, lexer.position⟩ :: added, indent, left, fun other place sameIndent _ => ?_⟩
      simp only [closeBlocks, sameIndent]
      rw [if_pos deeper]
      refine (rest { other.emit .blockEnd other.position other.position with indent := outer, indents }
        place rfl rfl).trans ?_
      simp [emit, place]
    · refine ⟨[], lexer.indent, lexer.indents, fun other _ sameIndent sameIndents => ?_⟩
      simp only [closeBlocks, sameIndent]
      rw [if_neg deeper, ← sameIndent, ← sameIndents, List.append_nil]

theorem closeTo_frame (column : Int) (lexer : Lexer) : ∃ added indent indents, ∀ other : Lexer,
    other.position = lexer.position → other.inFlow = lexer.inFlow → other.indent = lexer.indent →
      other.indents = lexer.indents →
        other.closeTo column = { other with queue := other.queue ++ added, indent, indents } := by
  by_cases flow : lexer.inFlow
  · refine ⟨[], lexer.indent, lexer.indents, fun other _ sameFlow indent indents => ?_⟩
    rw [closeTo, if_pos (sameFlow ▸ flow), ← indent, ← indents, List.append_nil]
  · obtain ⟨added, indent, indents, frame⟩ := closeBlocks_frame column lexer.indents lexer
    refine ⟨added, indent, indents, fun other place sameFlow sameIndent sameIndents => ?_⟩
    rw [closeTo, if_neg (sameFlow ▸ flow), sameIndents]
    exact frame other place sameIndent sameIndents

@[simp] theorem skipSpace_preceded (fuel : Nat) (lexer : Lexer) (placed : Placed) :
    (lexer.preceded placed).skipSpace fuel = (lexer.skipSpace fuel).preceded placed := by
  obtain ⟨cursor, keyAllowed, _, frame⟩ := skipSpace_frame fuel lexer
  rw [frame lexer rfl rfl rfl, frame (lexer.preceded placed) rfl rfl rfl]
  rfl

@[simp] theorem taken_skipSpace (fuel : Nat) (lexer : Lexer) : (lexer.skipSpace fuel).taken = lexer.taken := by
  obtain ⟨cursor, keyAllowed, _, frame⟩ := skipSpace_frame fuel lexer
  rw [frame lexer rfl rfl rfl]

@[simp] theorem pending_skipSpace (fuel : Nat) (lexer : Lexer) : (lexer.skipSpace fuel).pending = lexer.pending := by
  obtain ⟨cursor, keyAllowed, _, frame⟩ := skipSpace_frame fuel lexer
  rw [frame lexer rfl rfl rfl]

@[simp] theorem closeTo_preceded (column : Int) (lexer : Lexer) (placed : Placed) :
    (lexer.preceded placed).closeTo column = (lexer.closeTo column).preceded placed := by
  obtain ⟨added, indent, indents, frame⟩ := closeTo_frame column lexer
  rw [frame lexer rfl rfl rfl rfl, frame (lexer.preceded placed) rfl rfl rfl rfl]
  rfl

@[simp] theorem taken_closeTo (column : Int) (lexer : Lexer) : (lexer.closeTo column).taken = lexer.taken := by
  obtain ⟨added, indent, indents, frame⟩ := closeTo_frame column lexer
  rw [frame lexer rfl rfl rfl rfl]

@[simp] theorem pending_closeTo (column : Int) (lexer : Lexer) : (lexer.closeTo column).pending = lexer.pending := by
  obtain ⟨added, indent, indents, frame⟩ := closeTo_frame column lexer
  rw [frame lexer rfl rfl rfl rfl]

theorem insert_preceded (lexer : Lexer) {number : Nat} (some : 0 < lexer.taken) (later : lexer.taken ≤ number)
    (token : Token) (place : Position) (placed : Placed) :
    (lexer.preceded placed).insert number token place = (lexer.insert number token place).preceded placed := by
  have shift : number - (lexer.taken - 1) = number - lexer.taken + 1 := by omega
  simp [insert, preceded, shift]

section

variable (lexer : Lexer) (token : Token) (column : Nat) (place : Position)

/-- Whether a column is too far left to open a block. -/
def isShut : Bool := lexer.inFlow || decide ((column : Int) ≤ lexer.indent)

/-- The lexer in a block at a column. -/
def indented : Lexer := { lexer with indents := lexer.indent :: lexer.indents, indent := column }

theorem openBlock_of_shut (shut : lexer.isShut column) (number : Option Nat) :
    lexer.openBlock token column place number = lexer := if_pos shut

private theorem openBlock_last (deeper : ¬ lexer.isShut column) :
    lexer.openBlock token column place none = (lexer.indented column).emit token place place := if_neg deeper

private theorem openBlock_before (deeper : ¬ lexer.isShut column) (number : Nat) :
    lexer.openBlock token column place (some number) = (lexer.indented column).insert number token place :=
  if_neg deeper

@[simp] theorem openBlock_last_preceded (placed : Placed) :
    (lexer.preceded placed).openBlock token column place none =
      (lexer.openBlock token column place none).preceded placed := by
  by_cases shut : lexer.isShut column
  · rw [openBlock_of_shut lexer _ _ _ shut, openBlock_of_shut (lexer.preceded placed) _ _ _ shut]
  · rw [openBlock_last lexer _ _ _ shut, openBlock_last (lexer.preceded placed) _ _ _ shut]
    rfl

private theorem openBlock_before_preceded {number : Nat} (some : 0 < lexer.taken) (later : lexer.taken ≤ number)
    (placed : Placed) :
    (lexer.preceded placed).openBlock token column place (.some number) =
      (lexer.openBlock token column place (.some number)).preceded placed := by
  by_cases shut : lexer.isShut column
  · rw [openBlock_of_shut lexer _ _ _ shut, openBlock_of_shut (lexer.preceded placed) _ _ _ shut]
  · rw [openBlock_before lexer _ _ _ shut, openBlock_before (lexer.preceded placed) _ _ _ shut]
    exact insert_preceded (lexer.indented column) some later token place placed

end

@[simp] theorem taken_openBlock (lexer : Lexer) (token : Token) (column : Nat) (place : Position)
    (number : Option Nat) :
    (lexer.openBlock token column place number).taken = lexer.taken := by
  unfold openBlock
  split
  · rfl
  · cases number <;> rfl

@[simp] theorem pending_openBlock (lexer : Lexer) (token : Token) (column : Nat) (place : Position)
    (number : Option Nat) : (lexer.openBlock token column place number).pending = lexer.pending := by
  unfold openBlock
  split
  · rfl
  · cases number <;> rfl

namespace Ordered

theorem closeTo (ordered : lexer.Ordered) (column : Int) : (lexer.closeTo column).Ordered :=
  ordered.of_same (taken_closeTo _ _) (pending_closeTo _ _)

theorem closing (ordered : lexer.Ordered) (column : Int) {next : Lexer → Except Malformed Lexer}
    (rest : ∀ middle : Lexer, middle.Ordered →
      Trails middle (next middle) fun placed => next (middle.preceded placed)) :
    Trails lexer ((lexer.closeTo column).removeKey >>= next) fun placed =>
      ((lexer.preceded placed).closeTo column).removeKey >>= next := by
  simp only [closeTo_preceded]
  exact .within (taken_closeTo _ _) ((ordered.closeTo column).removeKey.bind fun middle _ => rest middle)

theorem readStreamEnd (ordered : lexer.Ordered) :
    Trails lexer lexer.readStreamEnd fun placed => (lexer.preceded placed).readStreamEnd := by
  let position := if lexer.position.column = 0 then lexer.position
    else { lexer.position with line := lexer.position.line + 1, column := 0 }
  let finished : Lexer := { lexer with cursor := { lexer.cursor with rest := [], position } }
  have stopped : finished.Ordered := ordered.of_same rfl rfl
  refine .within (show finished.taken = lexer.taken from rfl) ?_
  exact stopped.closing (-1) fun _ ordered => .ok rfl (ordered.of_same rfl rfl) fun _ _ => rfl

theorem readDirectiveToken (ordered : lexer.Ordered) :
    Trails lexer lexer.readDirectiveToken fun placed => (lexer.preceded placed).readDirectiveToken :=
  ordered.closing (-1) fun _ ordered => .after fun _ => .ok rfl (ordered.of_same rfl rfl) fun _ _ => rfl

theorem readDocumentMark (ordered : lexer.Ordered) (token : Token) :
    Trails lexer (lexer.readDocumentMark token) fun placed => (lexer.preceded placed).readDocumentMark token :=
  ordered.closing (-1) fun _ ordered => .ok rfl (ordered.of_same rfl rfl) fun _ _ => rfl

theorem openFlow (ordered : lexer.Ordered) (token : Token) :
    Trails lexer (lexer.openFlow token) fun placed => (lexer.preceded placed).openFlow token :=
  ordered.saveKey.bind fun _ _ ordered => .ok rfl (ordered.of_mem rfl (by simp [emitHere, emit])) fun _ _ => rfl

theorem closeFlow (ordered : lexer.Ordered) (token : Token) :
    Trails lexer (lexer.closeFlow token) fun placed => (lexer.preceded placed).closeFlow token := by
  refine ordered.removeKey.bind fun _ _ ordered => .ok rfl (ordered.of_mem rfl ?_) fun _ _ => rfl
  intro key member
  dsimp only [emitHere, emit] at member
  split at member
  · exact List.mem_of_mem_drop member
  · exact member

theorem readFlowEntry (ordered : lexer.Ordered) :
    Trails lexer lexer.readFlowEntry fun placed => (lexer.preceded placed).readFlowEntry :=
  ordered.removeKey.bind fun _ _ ordered => .ok rfl (ordered.of_same rfl rfl) fun _ _ => rfl

theorem openBlock (ordered : lexer.Ordered) (token : Token) (column : Nat) (place : Position) (number : Option Nat) :
    (lexer.openBlock token column place number).Ordered :=
  ordered.of_same (taken_openBlock _ _ _ _ _) (pending_openBlock _ _ _ _ _)

theorem opening (ordered : lexer.Ordered) (token : Token) (column : Nat) (place : Position)
    {next : Lexer → Except Malformed Lexer}
    (rest : ∀ middle : Lexer, middle.Ordered →
      Trails middle (next middle) fun placed => next (middle.preceded placed)) :
    Trails lexer ((lexer.openBlock token column place none).removeKey >>= next) fun placed =>
      ((lexer.preceded placed).openBlock token column place none).removeKey >>= next := by
  simp only [openBlock_last_preceded]
  exact .within (taken_openBlock _ _ _ _ _) ((ordered.openBlock _ _ _ _).removeKey.bind fun middle _ => rest middle)

theorem readBlockEntry (ordered : lexer.Ordered) :
    Trails lexer lexer.readBlockEntry fun placed => (lexer.preceded placed).readBlockEntry :=
  .choice (fun _ => .error _) fun _ =>
    ordered.opening .blockSequence lexer.cursor.column lexer.position fun _ ordered =>
      .ok rfl (ordered.of_same rfl rfl) fun _ _ => rfl

theorem readKey (ordered : lexer.Ordered) :
    Trails lexer lexer.readKey fun placed => (lexer.preceded placed).readKey :=
  .choice (fun _ => .error _) fun _ =>
    ordered.opening .blockMapping lexer.cursor.column lexer.position fun _ ordered =>
      .ok rfl (ordered.of_same rfl rfl) fun _ _ => rfl

theorem readValue (ordered : lexer.Ordered) :
    Trails lexer lexer.readValue fun placed => (lexer.preceded placed).readValue := by
  unfold Lexer.readValue
  simp only [preceded_pending]
  split
  next key rest found =>
    have later := ordered key (found ▸ List.mem_cons_self)
    let keyed := lexer.insert key.number .key key.position
    have block : (keyed.openBlock .blockMapping key.position.column key.position (some key.number)).Ordered :=
      openBlock (ordered.of_same rfl rfl : keyed.Ordered) _ _ _ _
    refine .ok (taken_openBlock _ _ _ _ _) (block.of_mem rfl fun other member => ?_) fun some placed => ?_
    · rw [pending_openBlock]
      change _ ∈ lexer.pending
      rw [found]
      exact List.mem_cons_of_mem _ (List.mem_of_ne_of_mem (by simp) member)
    · rw [insert_preceded lexer some later, openBlock_before_preceded keyed _ _ _ some later]
      rfl
  next =>
    refine .choice (fun _ => .error _) fun _ => ?_
    simp only [openBlock_last_preceded]
    have block : (lexer.openBlock .blockMapping lexer.cursor.column lexer.position none).Ordered :=
      ordered.openBlock _ _ _ _
    exact .ok (taken_openBlock _ _ _ _ _) (block.of_same rfl rfl) fun _ placed => rfl

theorem readAnchor (ordered : lexer.Ordered) (construct : Construct) (token : String → Token) :
    Trails lexer (lexer.readAnchor construct token) fun placed => (lexer.preceded placed).readAnchor construct token :=
  ordered.saveKey.bind fun _ _ ordered => .after fun _ => .ok rfl (ordered.of_same rfl rfl) fun _ _ => rfl

theorem readTagToken (ordered : lexer.Ordered) :
    Trails lexer lexer.readTagToken fun placed => (lexer.preceded placed).readTagToken :=
  ordered.saveKey.bind fun _ _ ordered => .after fun _ => .ok rfl (ordered.of_same rfl rfl) fun _ _ => rfl

theorem readBlockScalar (ordered : lexer.Ordered) (literal : Bool) :
    Trails lexer (lexer.readBlockScalar literal) fun placed => (lexer.preceded placed).readBlockScalar literal :=
  ordered.removeKey.bind fun _ _ ordered => .after fun _ => .ok rfl (ordered.of_same rfl rfl) fun _ _ => rfl

theorem readQuotedScalar (ordered : lexer.Ordered) (single : Bool) :
    Trails lexer (lexer.readQuotedScalar single) fun placed => (lexer.preceded placed).readQuotedScalar single :=
  ordered.saveKey.bind fun _ _ ordered => .after fun _ => .ok rfl (ordered.of_same rfl rfl) fun _ _ => rfl

theorem readPlainScalar (ordered : lexer.Ordered) :
    Trails lexer lexer.readPlainScalar fun placed => (lexer.preceded placed).readPlainScalar :=
  ordered.saveKey.bind fun _ _ ordered => .after fun _ => .ok rfl (ordered.of_same rfl rfl) fun _ _ => rfl

theorem readToken (ordered : lexer.Ordered) :
    Trails lexer lexer.readToken fun placed => (lexer.preceded placed).readToken := by
  unfold Lexer.readToken
  simp only [preceded_cursor, skipSpace_preceded]
  have blank : (lexer.skipSpace lexer.cursor.fuel).Ordered :=
    ordered.of_same (taken_skipSpace _ _) (pending_skipSpace _ _)
  refine .within (taken_skipSpace _ _) (blank.expireKeys.bind fun next _ ordered => ?_)
  simp only [preceded_cursor, closeTo_preceded]
  refine .within (taken_closeTo next.cursor.column next) ?_
  have ordered := ordered.closeTo next.cursor.column
  generalize next.closeTo next.cursor.column = here at ordered ⊢
  have plain (placed) (character) : (here.preceded placed).startsPlain character = here.startsPlain character := rfl
  simp only [preceded_inFlow, plain]
  split
  · exact ordered.readStreamEnd
  refine .choice (fun _ => ordered.readDirectiveToken) fun _ => ?_
  refine .choice (fun _ => ordered.readDocumentMark _) fun _ => ?_
  split
  · exact ordered.openFlow _
  · exact ordered.openFlow _
  · exact ordered.closeFlow _
  · exact ordered.closeFlow _
  · exact ordered.readFlowEntry
  · exact ordered.readAnchor _ _
  · exact ordered.readAnchor _ _
  · exact ordered.readTagToken
  · exact ordered.readQuotedScalar _
  · exact ordered.readQuotedScalar _
  refine .choice (fun _ => ordered.readBlockEntry) fun _ => .choice (fun _ => ordered.readKey) fun _ => ?_
  refine .choice (fun _ => ordered.readValue) fun _ => .choice (fun _ => ordered.readBlockScalar _) fun _ => ?_
  refine .choice (fun _ => ordered.readBlockScalar _) fun _ => .choice (fun _ => ordered.readPlainScalar) fun _ => ?_
  exact .error _

end Ordered

theorem isStale_of_reaches {first last : Cursor} (reaches : first.Reaches last) {key : Pending}
    (stale : isStale first key) : isStale last key := by
  obtain ⟨line, index⟩ := reaches
  simp only [isStale, Bool.or_eq_true, decide_eq_true_eq] at stale ⊢
  omega

private theorem fresh?_fresh? {first last : Cursor} (reaches : first.Reaches last) (key : Option Pending) :
    fresh? last (fresh? first key) = fresh? last key := by
  cases key with
  | none => rfl
  | some key =>
    by_cases stale : isStale first key
    · simp [fresh?, Option.filter_some, stale, isStale_of_reaches reaches stale]
    · simp [fresh?, Option.filter_some, stale]

/-- Keys can be given up before the blanks as well as after them. -/
theorem readToken_of_expired {next : Lexer} (run : lexer.readToken = .ok next) :
    ∃ expired, lexer.expireKeys = .ok expired ∧ expired.readToken = .ok next ∧ expired.cursor = lexer.cursor ∧
      expired.queue = lexer.queue ∧ expired.taken = lexer.taken ∧
      expired.pending = lexer.pending.map (fresh? lexer.cursor) := by
  let expired : Lexer := { lexer with pending := lexer.pending.map (fresh? lexer.cursor) }
  obtain ⟨middle, spaced, rest⟩ := bind_eq_ok.mp run
  obtain ⟨optional, settled⟩ := expireKeys_eq_ok.mp spaced
  obtain ⟨cursor, keyAllowed, reaches, frame⟩ := skipSpace_frame lexer.cursor.fuel lexer
  have here := frame lexer rfl rfl rfl
  have inFlow : expired.inFlow = lexer.inFlow := by simp [inFlow, expired]
  have there := frame expired rfl inFlow rfl
  rw [here] at optional settled
  refine ⟨expired, expireKeys_eq_ok.mpr ⟨?_, rfl⟩, ?_, rfl, rfl, rfl, rfl⟩
  · intro key member stale
    exact optional key member (isStale_of_reaches reaches stale)
  · refine bind_eq_ok.mpr ⟨middle, ?_, rest⟩
    change (skipSpace lexer.cursor.fuel expired).expireKeys = .ok middle
    rw [there]
    refine expireKeys_eq_ok.mpr ⟨fun key member => optional key (mem_of_fresh member), ?_⟩
    have same : expired.pending.map (fresh? cursor) = lexer.pending.map (fresh? cursor) := by
      rw [List.map_map]
      exact List.map_congr_left fun key _ => fresh?_fresh? reaches key
    rw [← settled, same]

/-- So many tokens, with those that they imply, lie between two lexers. -/
inductive Reads : Nat → Lexer → Lexer → Prop
  | refl {last} : Reads 0 last last
  | step {count first next last} : first.readToken = .ok next → next.cursor.fuel = first.cursor.fuel →
      Reads count next last → Reads (count + 1) first last

/-- Nothing that was read can become a key any more. -/
def IsDone (lexer : Lexer) : Prop := ∀ key ∈ lexer.pending, key = none

/-- The tokens that a lexer hands out from here on. -/
def Yields (lexer : Lexer) (tokens : List Token) : Prop :=
  lexer.Ordered ∧ ∃ count last, Reads count lexer last ∧ count ≤ lexer.cursor.fuel ∧ last.IsDone ∧
    last.queue.map Placed.token = tokens

private theorem Reads.of_preceded {count : Nat} {placed : Placed} {last : Lexer}
    (reads : Reads count (lexer.preceded placed) last)
    (some : 0 < lexer.taken) (ordered : lexer.Ordered) :
    ∃ behind, Reads count lexer behind ∧ last = behind.preceded placed := by
  induction count generalizing lexer with
  | zero =>
    cases reads
    exact ⟨lexer, .refl, rfl⟩
  | succ count ih =>
    cases reads with
    | step run fuel rest =>
      rw [ordered.readToken.shifts placed some] at run
      obtain ⟨next, earlier, rfl⟩ := map_eq_ok.mp run
      obtain ⟨taken, ordered⟩ := ordered.readToken.keeps earlier
      obtain ⟨behind, reads, same⟩ := ih rest (taken ▸ some) ordered
      exact ⟨behind, .step earlier fuel reads, same⟩

private theorem IsDone.expireKeys (done : lexer.IsDone) : lexer.expireKeys = .ok lexer := by
  have still : lexer.pending.map (fresh? lexer.cursor) = lexer.pending :=
    (List.map_congr_left fun key member => by rw [done key member]; rfl).trans (List.map_id _)
  refine expireKeys_eq_ok.mpr ⟨fun key member => absurd (done _ member) (by simp), ?_⟩
  rw [still]

private theorem IsDone.decided (done : lexer.IsDone) (some : lexer.queue ≠ []) : lexer.undecided = false := by
  have queued : lexer.queue.isEmpty = false := by simpa using some
  have pending : (lexer.pending.any fun key => key.any (·.number == lexer.taken)) = false := by
    refine List.any_eq_false.mpr fun key member => ?_
    rw [done key member]
    exact Bool.false_ne_true
  rw [undecided, queued, pending]
  rfl

/-- Giving up old keys first leads to the same tokens. -/
theorem Reads.expired {count : Nat} {last : Lexer} (reads : Reads count lexer last) (done : last.IsDone)
    (ordered : lexer.Ordered) : ∃ next, (if lexer.queue.isEmpty then pure lexer else lexer.expireKeys) = .ok next ∧
      Reads count next last ∧ next.cursor = lexer.cursor ∧ next.Ordered := by
  by_cases empty : lexer.queue.isEmpty
  · exact ⟨lexer, if_pos empty, reads, rfl, ordered⟩
  rw [if_neg empty]
  cases reads with
  | refl => exact ⟨lexer, done.expireKeys, .refl, rfl, ordered⟩
  | step run fuel rest =>
    obtain ⟨next, expired, run, cursor, queue, taken, pending⟩ := readToken_of_expired run
    refine ⟨next, expired, .step run (cursor ▸ fuel) rest, cursor, ordered.of_mem taken fun key member => ?_⟩
    exact mem_of_fresh (pending ▸ member)

private theorem settle_succ (fuel : Nat) (lexer : Lexer) : settle (fuel + 1) lexer =
    (if lexer.queue.isEmpty then pure lexer else lexer.expireKeys) >>= fun next =>
      if next.undecided then next.readToken >>= settle fuel else .ok next := by
  unfold settle
  split <;> rfl

/-- Once its first token is settled, a lexer still leads to the same tokens. -/
theorem settle_of_reads {count fuel : Nat} {last : Lexer} (reads : Reads count lexer last) (enough : count ≤ fuel)
    (ordered : lexer.Ordered) (done : last.IsDone) (some : last.queue ≠ []) :
    ∃ left next, settle (fuel + 1) lexer = .ok next ∧ Reads left next last ∧ left ≤ count ∧
      next.cursor.fuel = lexer.cursor.fuel ∧ next.Ordered ∧ next.undecided = false := by
  induction count generalizing fuel lexer with
  | zero =>
    obtain ⟨next, expired, reads, cursor, ordered⟩ := reads.expired done ordered
    cases reads
    have decided := done.decided some
    refine ⟨0, last, ?_, .refl, Nat.le_refl _, by rw [cursor], ordered, decided⟩
    rw [settle_succ]
    exact bind_eq_ok.mpr ⟨last, expired, if_neg (by simp [decided])⟩
  | succ count ih =>
    obtain ⟨next, expired, reads, cursor, ordered⟩ := reads.expired done ordered
    rw [settle_succ]
    by_cases undecided : next.undecided
    · cases reads with
      | @step _ _ further _ run sameFuel rest =>
        obtain ⟨_, ordered⟩ := ordered.readToken.keeps run
        obtain ⟨fuel, rfl⟩ := Nat.exists_eq_add_one_of_ne_zero
          (Nat.ne_of_gt (Nat.lt_of_lt_of_le (Nat.succ_pos _) enough))
        obtain ⟨left, last, settled, reads, fewer, fuels, rest⟩ := ih rest (Nat.le_of_succ_le_succ enough) ordered
        refine ⟨left, last, ?_, reads, Nat.le_succ_of_le fewer, by rw [fuels, sameFuel, cursor], rest⟩
        refine bind_eq_ok.mpr ⟨next, expired, ?_⟩
        rw [if_pos undecided]
        exact bind_eq_ok.mpr ⟨further, run, settled⟩
    · refine ⟨count + 1, next, ?_, reads, Nat.le_refl _, by rw [cursor], ordered, by simpa using undecided⟩
      exact bind_eq_ok.mpr ⟨next, expired, if_neg undecided⟩

/-- The next token is the first of those that are handed out, and looking at it changes nothing about them. -/
theorem peek_of_yields {token : Token} {tokens : List Token} (yields : lexer.Yields (token :: tokens)) :
    ∃ placed next, lexer.peek = .ok (placed, next) ∧ placed.token = token ∧ next.Yields (token :: tokens) ∧
      next.drop.Yields tokens := by
  obtain ⟨ordered, count, last, reads, enough, done, written⟩ := yields
  have some : last.queue ≠ [] := fun empty => by simp [empty] at written
  obtain ⟨left, next, settled, reads, fewer, fuels, ordered, decided⟩ := settle_of_reads reads enough ordered done some
  rw [undecided, Bool.or_eq_false_iff] at decided
  obtain ⟨queued, decided⟩ := decided
  obtain ⟨placed, queue, same⟩ : ∃ placed queue, next.queue = placed :: queue :=
    List.exists_cons_of_ne_nil (by simpa using queued)
  have left_le : left ≤ next.cursor.fuel := by omega
  -- the token that was looked at can be put back before the others
  have parts : next = next.drop.preceded placed := by
    have queue : placed :: next.queue.tail = next.queue := by rw [same]; rfl
    simp [drop, preceded, queue]
  have orderedToo : next.drop.Ordered := by
    intro key member
    have later := ordered key member
    have other : key.number ≠ next.taken := by
      intro same
      have free := List.any_eq_false.mp decided (Option.some key) member
      simp [same] at free
    change next.taken + 1 ≤ key.number
    omega
  have readsToo := reads
  rw [parts] at readsToo
  obtain ⟨behind, rest, rfl⟩ := readsToo.of_preceded (Nat.succ_pos _) orderedToo
  obtain ⟨first, others⟩ := List.cons.inj written
  refine ⟨placed, next, ?_, first, ⟨ordered, left, _, reads, left_le, done, written⟩, orderedToo, left, behind,
    rest, ?_⟩
  · unfold peek
    exact bind_eq_ok.mpr ⟨next, settled, by rw [same]; rfl⟩
  · exact ⟨left_le, done, others⟩

end Lexer

end ApiStyle.Yaml
