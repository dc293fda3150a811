import ModalLexer.Proofs.Scan.States
import ModalLexer.Proofs.Scan.Stream
import ModalLexer.Proofs.Table.Counterpart

/-!
Scans with two tables side by side. If the choice of a rule comes out alike, so does every step, and with it every
scan of a text or of a group: the tokens are the same, the errors too, and the same names stand on the stacks. Only
where the first table gives up earlier does its scan end before the other one.
-/

namespace ModalLexer

open Text

namespace Table

variable {v : View} {t t' : Table} {memos : Memo → Memo → Prop} {text : String}

/-! ## Initial stacks -/

theorem name?_of_stateId? {name : String} {id : StateId} (h : t.stateId? name = some id) : t.name? id = some name := by
  obtain ⟨i, hi, rfl⟩ := Option.map_eq_some_iff.mp h
  obtain ⟨hlt, hname, _⟩ := Array.findIdx?_eq_some_iff_getElem.mp hi
  rw [name?, Array.getElem?_eq_getElem hlt, eq_of_beq hname]

theorem stateId?_eq_none {name : String} (h : name ∉ t.names) : t.stateId? name = none := by
  cases hid : t.stateId? name with
  | none => rfl
  | some id => exact absurd (Array.mem_of_getElem? (name?_of_stateId? hid)) h

theorem Counterpart.initialStack (h : t.Counterpart v t') (names : List String) :
    Alike v t t' (t.SameStack t') (t.initialStack names) (t'.initialStack names) := by
  refine (Alike.mapM (fun name => ?_) names).bind fun ids ids' hids => .ok ⟨h.root, List.rel_reverse hids⟩
  by_cases hname : name ∈ t.names
  · obtain ⟨id, hid⟩ := stateId?_exists hname
    obtain ⟨id', hid'⟩ := stateId?_exists ((h.names name).mpr hname)
    rw [hid, hid']
    exact .ok ⟨name, name?_of_stateId? hid, name?_of_stateId? hid'⟩
  · rw [stateId?_eq_none hname, stateId?_eq_none (mt (h.names name).mp hname)]
    exact .error rfl

theorem Counterpart.initialStack_ok (h : t.Counterpart v t') {names : List String} {stack : StateStack}
    (hstack : t.initialStack names = .ok stack) :
    ∃ stack', t'.initialStack names = .ok stack' ∧ t.SameStack t' stack stack' := by
  have hstacks := h.initialStack names
  rw [hstack] at hstacks
  generalize t'.initialStack names = out at hstacks ⊢
  cases hstacks with
  | ok hsame => exact ⟨_, rfl, hsame⟩

theorem Counterpart.initialStack_error (h : t.Counterpart {} t') (hlimits : t.SameLimits t') {names : List String}
    {e : Error} (he : t.initialStack names = .error e) : t'.initialStack names = .error e := by
  have hstacks := h.initialStack names
  rw [he] at hstacks
  generalize t'.initialStack names = out at hstacks ⊢
  cases hstacks with
  | @error _ e' hsite => rw [e.mapSite_id.symm.trans (hsite.trans e'.mapSite_id)]
  | cut hcut => exact absurd hcut (hlimits.not_cuts e)

/-- Tables with the same names in the same order begin with the same stacks. -/
theorem initialStack_eq {d d' : Declaration} (h : d.build = .ok t) (h' : d'.build = .ok t')
    (hnames : d'.names = d.names) (hroot : d'.options.root = d.options.root) (names : List String) :
    t'.initialStack names = t.initialStack names := by
  have hplace := d.build_root h
  have hplace' := d'.build_root h'
  rw [Declaration.build_name? h] at hplace
  rw [Declaration.build_name? h', hnames, hroot] at hplace'
  have hindex : t'.root.index = t.root.index :=
    (List.getElem?_inj (List.getElem?_eq_some_iff.mp hplace').1 (d.build_nodup h)).mp (hplace'.trans hplace.symm)
  have hroots : t'.root = t.root := congrArg StateId.mk hindex
  unfold initialStack stateId?
  rw [hroots, d.build_names h, d'.build_names h', hnames]

/-! ## Tokens of a match -/

/-- Two ways to scan groups come out alike on the parts of a text. -/
def LexAlike (v : View) (t t' : Table) (text : String) (lexGroup lexGroup' : GroupLexer) : Prop :=
  ∀ part, IsPart text part → ∀ id id', t.SameState t' id id' →
    Alike v t t' (fun ts ts' => ts' = ts.map v.token) (lexGroup part id).result (lexGroup' part id').result

variable {lexGroup lexGroup' : GroupLexer}

theorem map_token_shift (v : View) (tokens : List Token) (base : Nat) :
    (tokens.map (·.shift base)).map v.token = (tokens.map v.token).map (·.shift base) := by
  rw [List.map_map, List.map_map]
  rfl

theorem pieceTokens_alike (h : t.Counterpart v t') (hlex : LexAlike v t t' text lexGroup lexGroup')
    {actions actions' : List (GroupAction StateId)}
    (hactions : List.Forall₂ (GroupAction.Like v.kind (t.SameState t')) actions actions') (p : Piece) :
    Alike v t t' (fun ts ts' => ts' = ts.map v.token) (t.pieceTokens text lexGroup actions p).result
      (t'.pieceTokens text lexGroup' actions' p).result := by
  have hplain (span : Span) : Alike v t t' (fun ts ts' => ts' = ts.map v.token)
      (.ok [⟨span.start, t.options.textKind, slice text span⟩])
      (.ok [⟨span.start, t'.options.textKind, slice text span⟩]) := by
    rw [h.textKind]
    exact .ok rfl
  cases p with
  | gap span => exact hplain span
  | group i span =>
      have haction := forall₂_getElem? hactions i
      simp only [pieceTokens]
      generalize actions[i]? = action at haction ⊢
      generalize actions'[i]? = action' at haction ⊢
      cases haction with
      | none => exact hplain span
      | some ha =>
          cases ha with
          | kind k => exact .ok rfl
          | text => exact hplain span
          | skip => exact hplain span
          | lex hid =>
              rw [Emitted.result_shift, Emitted.result_shift]
              refine (hlex _ (isPart_slice text span) _ _ hid).map ?_
              rintro ts _ rfl
              exact (map_token_shift v ts span.start).symm

theorem piecesTokens_alike (h : t.Counterpart v t') (hlex : LexAlike v t t' text lexGroup lexGroup')
    {actions actions' : List (GroupAction StateId)}
    (hactions : List.Forall₂ (GroupAction.Like v.kind (t.SameState t')) actions actions') (ps : List Piece) :
    Alike v t t' (fun ts ts' => ts' = ts.map v.token) (t.piecesTokens text lexGroup actions ps).result
      (t'.piecesTokens text lexGroup' actions' ps).result := by
  induction ps with
  | nil => exact .ok rfl
  | cons p ps ih =>
      rw [result_piecesTokens_cons, result_piecesTokens_cons]
      refine (pieceTokens_alike h hlex hactions p).bind fun first first' hfirst => ih.bind fun rest rest' hrest => ?_
      exact .ok (by rw [hfirst, hrest, List.map_append])

theorem actionEmits_eq {rel : StateId → StateId → Prop} {kind : Kind → Kind}
    {actions actions' : List (GroupAction StateId)}
    (h : List.Forall₂ (GroupAction.Like kind rel) actions actions') : actionEmits actions' = actionEmits actions := by
  funext i
  have haction := forall₂_getElem? h i
  unfold actionEmits
  generalize actions[i]? = action at haction ⊢
  generalize actions'[i]? = action' at haction ⊢
  cases haction with
  | none => rfl
  | some ha => exact ha.emits_eq

theorem matchTokens_alike (h : t.Counterpart v t') (hlex : LexAlike v t t' text lexGroup lexGroup')
    {r r' : CompiledRule} (hr : r.Like v t t' r') (m : RuleMatch) (cursor : Nat) :
    Alike v t t' (fun ts ts' => ts' = ts.map v.token) (t.matchTokens text lexGroup r m cursor).result
      (t'.matchTokens text lexGroup' r' m cursor).result := by
  have hemission := hr.emission
  unfold matchTokens
  generalize r.emission = emission at hemission ⊢
  generalize r'.emission = emission' at hemission ⊢
  cases hemission with
  | token k => exact .ok rfl
  | byGroups hactions =>
      simp only [actionEmits_eq hactions]
      exact piecesTokens_alike h hlex hactions _
  | nothing => exact .error (by simp only [Error.mapSite, hr.site])

/-! ## Steps -/

/-- Scans at the same place, with the same names on their stacks and memories that are related. -/
structure ScanLike (t t' : Table) (memos : Memo → Memo → Prop) (s s' : Scan) : Prop where
  cursor : s'.cursor = s.cursor
  zeroWidth : s'.zeroWidth = s.zeroWidth
  stack : t.SameStack t' s.stack s'.stack
  memo : memos s.memo s'.memo

/-- Steps with the same tokens that lead to the same place, or with the same error, unless the first one is cut off. -/
inductive StepAlike (v : View) (t t' : Table) (memos : Memo → Memo → Prop) : Stepped → Stepped → Prop
  | ok {s s' : Scan} {tokens : List Token} : t.ScanLike t' memos s s' →
      StepAlike v t t' memos ⟨s, tokens, none⟩ ⟨s', tokens.map v.token, none⟩
  | error {s s' : Scan} {queued queued' : List Token} {e e' : Error} : e.mapSite v.site = e'.mapSite v.site →
      StepAlike v t t' memos ⟨s, queued, some e⟩ ⟨s', queued', some e'⟩
  | cut {s : Scan} {queued : List Token} {e : Error} {out' : Stepped} : t.Cuts t' e →
      StepAlike v t t' memos ⟨s, queued, some e⟩ out'

theorem StepAlike.of_ok {s : Scan} {tokens : List Token} {out' : Stepped}
    (h : StepAlike v t t' memos ⟨s, tokens, none⟩ out') :
    ∃ s', out' = ⟨s', tokens.map v.token, none⟩ ∧ t.ScanLike t' memos s s' := by
  cases h with
  | ok hs => exact ⟨_, rfl, hs⟩

theorem StepAlike.of_error {out out' : Stepped} {e : Error} (h : StepAlike v t t' memos out out')
    (he : out.error = some e) :
    (∃ e', out'.error = some e' ∧ e.mapSite v.site = e'.mapSite v.site) ∨ t.Cuts t' e := by
  cases h with
  | ok => cases he
  | error hsite => cases he; exact .inl ⟨_, rfl, hsite⟩
  | cut hcut => cases he; exact .inr hcut

theorem ScanLike.inBounds (h : t.Counterpart v t') {s s' : Scan} (hs : t.ScanLike t' memos s s')
    (hb : t.InBounds text s) : t'.InBounds text s' :=
  ⟨hs.cursor ▸ hb.boundary, hs.zeroWidth ▸ Nat.le_trans hb.zeroWidth h.maxZeroWidth⟩

theorem accept_alike (h : t.Counterpart v t') (hlex : LexAlike v t t' text lexGroup lexGroup') {s s' : Scan}
    (hs : t.ScanLike t' memos s s') {r r' : CompiledRule} (hr : r.Like v t t' r') (m : RuleMatch) :
    StepAlike v t t' memos (t.accept text lexGroup s r m) (t'.accept text lexGroup' s' r' m) := by
  have hle := h.maxZeroWidth
  have hstack := hs.stack.apply hr.transition
  unfold accept
  rw [hr.transition.isStay_eq, hs.cursor, hs.zeroWidth, ← hs.stack.top.name_eq]
  split
  · split
    · exact .error (by simp only [Error.mapSite, hr.site])
    · simp only
      split
      next hmany =>
        by_cases heq : t.options.maxZeroWidth = t'.options.maxZeroWidth
        · rw [← heq, if_pos hmany]
          exact .error rfl
        · exact .cut (Nat.lt_of_le_of_ne hle heq)
      next hfew =>
        rw [if_neg (by omega)]
        exact .ok ⟨rfl, rfl, hstack, hs.memo⟩
  · have htokens := matchTokens_alike h hlex hr m s.cursor
    generalize t.matchTokens text lexGroup r m s.cursor = out at htokens ⊢
    generalize t'.matchTokens text lexGroup' r' m s.cursor = out' at htokens ⊢
    rcases out with ⟨tokens, _ | e⟩
    · rcases out' with ⟨tokens', _ | e'⟩
      · cases htokens with
        | ok heq => cases heq; exact .ok ⟨rfl, rfl, hstack, hs.memo⟩
      · cases htokens
    · rcases out' with ⟨tokens', _ | e'⟩
      · cases htokens with
        | cut hcut => exact .cut hcut
      · cases htokens with
        | error hsite => exact .error hsite
        | cut hcut => exact .cut hcut

theorem fallback_alike (h : t.Counterpart v t') {s s' : Scan} (hs : t.ScanLike t' memos s s') :
    StepAlike v t t' memos (t.fallback text s) (t'.fallback text s') := by
  unfold fallback
  simp only [hs.cursor, h.textKind, h.errorKind, h.resetOnNewline]
  split
  · split
    · exact .ok ⟨rfl, rfl, hs.stack.reset, hs.memo⟩
    · exact .ok ⟨rfl, rfl, hs.stack, hs.memo⟩
  · exact .ok ⟨rfl, rfl, hs.stack, hs.memo⟩

/-- What came out, with what is remembered then. After an error nothing of that matters. -/
def settled (out : Except Error α × Memo) : Except Error (α × Memo) :=
  out.1.map fun a => (a, out.2)

/-- Rules that correspond, with the same match, or none, and memories that are related. -/
inductive ChoiceLike (v : View) (t t' : Table) (memos : Memo → Memo → Prop) :
    Option (CompiledRule × RuleMatch) × Memo → Option (CompiledRule × RuleMatch) × Memo → Prop
  | none {memo memo' : Memo} : memos memo memo' → ChoiceLike v t t' memos (none, memo) (none, memo')
  | some {r r' : CompiledRule} {m : RuleMatch} {memo memo' : Memo} : r.Like v t t' r' → memos memo memo' →
      ChoiceLike v t t' memos (some (r, m), memo) (some (r', m), memo')

/-- From memories that are related, the choices of a rule in a text come out alike. -/
structure ChoosesLike (v : View) (t t' : Table) (memos : Memo → Memo → Prop) (text : String) : Prop where
  empty : memos {} {}
  choice : ∀ {id id'}, t.SameState t' id id' → ∀ {pos}, isBoundary text pos = true → ∀ {m m'}, memos m m' →
    Alike v t t' (ChoiceLike v t t' memos) (settled (choose text pos (t.rulesOf id) m))
      (settled (choose text pos (t'.rulesOf id') m'))

theorem step_alike (h : t.Counterpart v t') (hchoose : ChoosesLike v t t' memos text)
    (hlex : LexAlike v t t' text lexGroup lexGroup') {s s' : Scan} (hs : t.ScanLike t' memos s s')
    (hb : isBoundary text s.cursor = true) :
    StepAlike v t t' memos (t.step text lexGroup s) (t'.step text lexGroup' s') := by
  have hchoice : Alike v t t' (ChoiceLike v t t' memos)
      (settled (choose text s.cursor (t.rulesOf s.stack.top) s.memo))
      (settled (choose text s'.cursor (t'.rulesOf s'.stack.top) s'.memo)) := by
    rw [hs.cursor]
    exact hchoose.choice hs.stack.top hb hs.memo
  have hsettled {memo memo' : Memo} (hmemo : memos memo memo') :
      t.ScanLike t' memos { s with memo } { s' with memo := memo' } :=
    ⟨hs.cursor, hs.zeroWidth, hs.stack, hmemo⟩
  unfold step
  generalize choose text s.cursor (t.rulesOf s.stack.top) s.memo = out at hchoice ⊢
  generalize choose text s'.cursor (t'.rulesOf s'.stack.top) s'.memo = out' at hchoice ⊢
  rcases out with ⟨e | found, memo⟩
  · rcases out' with ⟨e' | found', memo'⟩
    · cases hchoice with
      | error hsite => exact .error hsite
      | cut hcut => exact .cut hcut
    · cases hchoice with
      | cut hcut => exact .cut hcut
  · rcases out' with ⟨e' | found', memo'⟩
    · cases hchoice
    · cases hchoice with
      | ok hsame =>
          cases hsame with
          | none hmemo => exact fallback_alike h (hsettled hmemo)
          | some hr hmemo => exact accept_alike h hlex (hsettled hmemo) hr _

/-! ## Runs -/

/-- Runs with the same tokens that end alike, unless the first one is cut off. -/
inductive ScannedLike (v : View) (t t' : Table) (out out' : Scanned) : Prop
  | same (tokens : out'.tokens = out.tokens.map v.token)
      (error : out.error.map (·.mapSite v.site) = out'.error.map (·.mapSite v.site))
  | cut {e : Error} (error : out.error = some e) (cuts : t.Cuts t' e)
      (tokens : out.tokens.map v.token <+: out'.tokens)

theorem ScannedLike.after {out out' : Scanned} (h : ScannedLike v t t' out out') (tokens : List Token) :
    ScannedLike v t t' (out.after tokens) (out'.after (tokens.map v.token)) := by
  cases h with
  | same htokens herror => exact .same (by simp only [Scanned.after, htokens, List.map_append]) herror
  | cut herror hcut htokens =>
      refine .cut herror hcut ?_
      simp only [Scanned.after, List.map_append]
      exact (List.prefix_append_right_inj _).mpr htokens

theorem ScannedLike.result {out out' : Scanned} (h : ScannedLike v t t' out out') :
    Alike v t t' (fun ts ts' => ts' = ts.map v.token) out.emitted.result out'.emitted.result := by
  cases h with
  | cut herror hcut _ => rw [Emitted.result_eq_error.mpr herror]; exact .cut hcut
  | same htokens herror =>
      cases he : out.error with
      | none =>
          rw [he] at herror
          have he' := Option.map_eq_none_iff.mp herror.symm
          rw [Emitted.result_eq_ok.mpr (emitted_eq_ok.mpr ⟨he, rfl⟩),
            Emitted.result_eq_ok.mpr (emitted_eq_ok.mpr ⟨he', htokens⟩)]
          exact .ok rfl
      | some e =>
          rw [he] at herror
          obtain ⟨e', he', hsite⟩ := Option.map_eq_some_iff.mp herror.symm
          rw [Emitted.result_eq_error.mpr he, Emitted.result_eq_error.mpr he']
          exact .error hsite.symm

theorem run_alike (h : t.Counterpart v t') (hchoose : ChoosesLike v t t' memos text)
    (hlex : LexAlike v t t' text lexGroup lexGroup') (htiles : TilesGroups lexGroup) (htiles' : TilesGroups lexGroup')
    {s s' : Scan} (hb : t.InBounds text s) (hs : t.ScanLike t' memos s s') :
    ScannedLike v t t' (t.run text lexGroup s) (t'.run text lexGroup' s') := by
  refine run_induction h.sound htiles (motive := fun s out => ∀ s', t.ScanLike t' memos s s' →
    ScannedLike v t t' out (t'.run text lexGroup' s')) ?_ ?_ ?_ hb s' hs
  · intro s _ hend s' hs
    rw [run_end (hs.cursor ▸ hend)]
    exact .same rfl rfl
  · intro s e hb hlt hstep s' hs
    rcases (step_alike h hchoose hlex hs hb.boundary).of_error hstep with ⟨e', hstep', hsite⟩ | hcut
    · rw [run_error (hs.cursor ▸ hlt) hstep']
      exact .same rfl (congrArg some hsite)
    · exact .cut rfl hcut List.nil_prefix
  · intro s tokens s₁ hb hlt hstep _ ih s' hs
    have hlike := step_alike h hchoose hlex hs hb.boundary
    rw [hstep] at hlike
    obtain ⟨s₁', hstep', hs₁⟩ := hlike.of_ok
    rw [run_step h.sound' htiles' (hs.inBounds h hb) (hs.cursor ▸ hlt) hstep']
    exact (ih _ hs₁).after tokens

theorem start_like {stack stack' : StateStack} (hchoose : ChoosesLike v t t' memos text)
    (hstack : t.SameStack t' stack stack') : t.ScanLike t' memos { stack } { stack := stack' } :=
  ⟨rfl, rfl, hstack, hchoose.empty⟩

/-- Scans of groups come out alike, however many levels the second table has left in addition. -/
theorem lexGroup_alike (h : t.Counterpart v t')
    (hchoose : ∀ part, IsPart text part → ∃ memos, ChoosesLike v t t' memos part) {levels levels' : Nat}
    (hle : levels ≤ levels') (heq : t'.options.maxNesting = t.options.maxNesting → levels' = levels) :
    LexAlike v t t' text (t.lexGroup levels) (t'.lexGroup levels') := by
  induction levels generalizing levels' text with
  | zero =>
      intro part _ id id' _
      by_cases hmax : t'.options.maxNesting = t.options.maxNesting
      · rw [heq hmax, lexGroup, lexGroup, hmax]
        exact .error rfl
      · exact .cut (Nat.lt_of_le_of_ne h.maxNesting (Ne.symm hmax))
  | succ levels ih =>
      intro part hpart id id' hid
      cases levels' with
      | zero => omega
      | succ levels' =>
          have hinner : ∀ inner, IsPart part inner → ∃ memos, ChoosesLike v t t' memos inner :=
            fun inner hinner => hchoose inner (hpart.trans hinner)
          obtain ⟨memos, hmemos⟩ := hchoose part hpart
          refine ScannedLike.result (run_alike h hmemos ?_ (lexGroup_tiles h.sound levels)
            (lexGroup_tiles h.sound' levels') (inBounds_start t part _) (start_like hmemos ⟨h.root, .cons hid .nil⟩))
          exact ih hinner (Nat.le_of_succ_le_succ hle) fun hmax => Nat.succ.inj (heq hmax)

theorem lexOuterGroup_alike (h : t.Counterpart v t')
    (hchoose : ∀ part, IsPart text part → ∃ memos, ChoosesLike v t t' memos part) :
    LexAlike v t t' text t.lexOuterGroup t'.lexOuterGroup :=
  lexGroup_alike h hchoose h.maxNesting id

theorem scanFrom_alike (h : t.Counterpart v t')
    (hchoose : ∀ part, IsPart text part → ∃ memos, ChoosesLike v t t' memos part) {stack stack' : StateStack}
    (hstack : t.SameStack t' stack stack') :
    ScannedLike v t t' (t.scanFrom text stack) (t'.scanFrom text stack') := by
  obtain ⟨memos, hmemos⟩ := hchoose text (isPart_self text)
  exact run_alike h hmemos (lexOuterGroup_alike h hchoose) (lexOuterGroup_tiles h.sound) (lexOuterGroup_tiles h.sound')
    (inBounds_start t text stack) (start_like hmemos hstack)

end Table

/-! ## Streams -/

namespace Stream

open Table

variable {v : View} {t t' : Table} {memos : Memo → Memo → Prop} {text : String}

/-- Streams at the same place with the same tokens in hand. As long as they go on, the same holds of what they have
counted and remember. -/
structure Like (v : View) (t t' : Table) (memos : Memo → Memo → Prop) (s s' : Stream) : Prop where
  cursor : s'.scan.cursor = s.scan.cursor
  stack : t.SameStack t' s.scan.stack s'.scan.stack
  scan : s.finished = false → t.ScanLike t' memos s.scan s'.scan
  pending : s'.pending = s.pending.map v.token
  finished : s'.finished = s.finished

theorem like_of_scan {s s' : Stream} (hs : t.ScanLike t' memos s.scan s'.scan)
    (hpending : s'.pending = s.pending.map v.token) (hfinished : s'.finished = s.finished) :
    Like v t t' memos s s' :=
  ⟨hs.cursor, hs.stack, fun _ => hs, hpending, hfinished⟩

/-- Calls that hand out the same, and leave streams at the same place. -/
structure NextLike (v : View) (t t' : Table) (memos : Memo → Memo → Prop)
    (out out' : Option (Except Error Token) × Stream) : Prop where
  item : Option.Rel (Alike v t t' fun token token' => token' = v.token token) out.1 out'.1
  stream : Like v t t' memos out.2 out'.2

theorem advance_like (h : t.Counterpart v t') (hlimits : t.SameLimits t') (hchoose : ChoosesLike v t t' memos text)
    (hlex : LexAlike v t t' text t.lexOuterGroup t'.lexOuterGroup) {fuel : Nat} {s s' : Scan}
    (hb : t.InBounds text s) (hs : t.ScanLike t' memos s s') :
    NextLike v t t' memos (advance t text fuel s) (advance t' text fuel s') := by
  induction fuel generalizing s s' with
  | zero => exact ⟨.none, like_of_scan hs rfl rfl⟩
  | succ fuel ih =>
      unfold advance
      rw [hs.cursor]
      split
      · exact ⟨.none, like_of_scan hs rfl rfl⟩
      next hend =>
        have hlike := step_alike h hchoose hlex hs hb.boundary
        generalize hstep : t.step text t.lexOuterGroup s = out at hlike ⊢
        generalize hstep' : t'.step text t'.lexOuterGroup s' = out' at hlike ⊢
        cases hlike with
        | cut hcut => exact absurd hcut (hlimits.not_cuts _)
        | error hsite =>
            -- What the two steps have changed before they failed does not show any more.
            obtain ⟨hcursor, hstack, rfl⟩ := step_failed hstep
            obtain ⟨hcursor', hstack', rfl⟩ := step_failed hstep'
            refine ⟨.some (.error hsite), ?_, ?_, (fun h => by cases h), rfl, rfl⟩
            · exact hcursor'.trans (hs.cursor.trans hcursor.symm)
            · exact hstack ▸ hstack' ▸ hs.stack
        | @ok s₁ s₁' tokens hs₁ =>
            cases tokens with
            | cons token tokens => exact ⟨.some (.ok rfl), like_of_scan hs₁ rfl rfl⟩
            | nil =>
                have hp := step_progress h.sound (lexOuterGroup_tiles h.sound) hb.boundary (by omega) hstep
                exact ih (hp.inBounds hb) hs₁

theorem next_like (h : t.Counterpart v t') (hlimits : t.SameLimits t') (hchoose : ChoosesLike v t t' memos text)
    (hlex : LexAlike v t t' text t.lexOuterGroup t'.lexOuterGroup) {s s' : Stream} (hb : s.InBounds t text)
    (hs : Like v t t' memos s s') : NextLike v t t' memos (next t text s) (next t' text s') := by
  obtain ⟨scan, pending, finished⟩ := s
  obtain ⟨scan', _, _⟩ := s'
  obtain ⟨hcursor, hstack, hscan, hpending, hfinished⟩ := hs
  cases hpending
  cases hfinished
  cases pending with
  | cons token pending => exact ⟨.some (.ok rfl), hcursor, hstack, hscan, rfl, rfl⟩
  | nil =>
      cases finished with
      | true => exact ⟨.none, hcursor, hstack, hscan, rfl, rfl⟩
      | false =>
          have hbound : t'.stepBound text = t.stepBound text := by rw [stepBound, stepBound, hlimits.maxZeroWidth]
          simp only [next, List.map_nil, Bool.false_eq_true, ↓reduceIte, hbound]
          exact advance_like h hlimits hchoose hlex (hb rfl) (hscan rfl)

theorem after_like (h : t.Counterpart v t') (hlimits : t.SameLimits t') (hchoose : ChoosesLike v t t' memos text)
    (hlex : LexAlike v t t' text t.lexOuterGroup t'.lexOuterGroup) {s s' : Stream} (hb : s.InBounds t text)
    (hs : Like v t t' memos s s') (n : Nat) :
    Stream.InBounds t text (Calls.after (next t text) s n) ∧
      Like v t t' memos (Calls.after (next t text) s n) (Calls.after (next t' text) s' n) := by
  induction n with
  | zero => exact ⟨hb, hs⟩
  | succ n ih =>
      obtain ⟨hb, hs⟩ := ih
      rw [Calls.after_succ, Calls.after_succ]
      exact ⟨(next_hands h.sound _ hb).inv, (next_like h hlimits hchoose hlex hb hs).stream⟩

theorem map_item_eq (hlimits : t.SameLimits t') {item item' : Option (Except Error Token)}
    (h : Option.Rel (Alike v t t' fun token token' => token' = v.token token) item item') :
    item'.map (·.mapError (·.mapSite v.site)) = item.map fun x => (x.map v.token).mapError (·.mapSite v.site) := by
  cases h with
  | none => rfl
  | some h =>
      cases h with
      | ok htoken => rw [htoken]; rfl
      | error he => exact congrArg (fun e => some (Except.error e)) he.symm
      | cut hcut => exact absurd hcut (hlimits.not_cuts _)

/-- Tables with the same limits whose choices come out alike hand out the same items from the same names, and stand
at the same place with the same names on their stacks after every call. -/
theorem calls_like (h : t.Counterpart v t') (hlimits : t.SameLimits t')
    (hchoose : ∀ part, IsPart text part → ∃ memos, ChoosesLike v t t' memos part) {names : List String}
    {stack : StateStack} (hstack : t.initialStack names = .ok stack) :
    ∃ stack', t'.initialStack names = .ok stack' ∧ ∀ n,
      (Calls.item (next t' text) (start stack') n).map (·.mapError (·.mapSite v.site)) =
          ((Calls.item (next t text) (start stack) n).map fun x => (x.map v.token).mapError (·.mapSite v.site)) ∧
        (Calls.after (next t' text) (start stack') n).scan.cursor =
          (Calls.after (next t text) (start stack) n).scan.cursor ∧
        (Calls.after (next t' text) (start stack') n).scan.stack.toList.map t'.name =
          (Calls.after (next t text) (start stack) n).scan.stack.toList.map t.name := by
  obtain ⟨stack', hstack', hsame⟩ := h.initialStack_ok hstack
  obtain ⟨memos, hmemos⟩ := hchoose text (isPart_self text)
  have hlex := lexOuterGroup_alike h hchoose
  have hstart : Like v t t' memos (start stack) (start stack') := like_of_scan (start_like hmemos hsame) rfl rfl
  have hb : InBounds t text (start stack) := fun _ => inBounds_start t text stack
  refine ⟨stack', hstack', fun n => ?_⟩
  obtain ⟨hb, hs⟩ := after_like h hlimits hmemos hlex hb hstart n
  have hitem := (next_like h hlimits hmemos hlex hb hs).item
  exact ⟨map_item_eq hlimits hitem, hs.cursor, hs.stack.map_name.symm⟩

end Stream

end ModalLexer
