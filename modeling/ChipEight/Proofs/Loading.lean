import ChipEight.Proofs.Reading

/-!
# Settings after any files

Files are read one after the other over the default settings, whatever becomes of each: one may be
missing, be no text, be no document or hold an invalid setting.  Each setting is then the one of
the last document that reached it with a valid value, and within its bounds.

The documents may come from any parser.  What the files of a host hold, read by the parser of
documents, is a case of it.
-/

namespace ChipEight.Settings

/-! ## One source -/

theorem receive_ok (settings : Settings) (path : String) (document : Document) :
    (settings.receive path (.ok document)).settings = (settings.apply document).settings ∧
      (settings.receive path (.ok document)).result = (settings.apply document).result := by
  simp only [receive]
  split
  case h_1 succeeded => exact ⟨rfl, rfl⟩
  case h_2 => exact ⟨rfl, rfl⟩

/-- What is received from a source follows it, whether the source can be read or not. -/
theorem follows_receive (settings : Settings) (path : String) (source : Source) :
    Follows settings source (settings.receive path source).settings
      (settings.receive path source).result := by
  cases source with
  | error reason => exact .unavailable
  | ok document =>
      rw [(receive_ok settings path document).1, (receive_ok settings path document).2]
      exact follows_apply settings document

/-- A file holds a document if its bytes are a text and the parser takes the text for it. -/
theorem source_eq_ok_iff (parse : Parser) (path : String) (file : File) (document : Document) :
    file.source parse path = .ok document ↔
      ∃ content text, file = .bytes content ∧ String.fromUTF8? content = some text ∧
        parse text = .ok document := by
  cases file with
  | missing => simp [File.source, File.text, Except.bind]
  | bytes content =>
      cases decoded : String.fromUTF8? content with
      | none => simp [File.source, File.text, decoded, Except.bind]
      | some text =>
          cases parsed : parse text with
          | error => simp [File.source, File.text, decoded, parsed, Except.bind]
          | ok other => simp [File.source, File.text, decoded, parsed, Except.bind]

/-! ## The settings a source gives -/

/-- A source gives a rate: it is a document with a valid one. -/
def GivesRate (source : Source) (rate : Nat) : Prop :=
  ∃ document, source = .ok document ∧ RulesRate document (.ok (some rate))

/-- A source gives a scale: it is a document with a valid one, which an invalid rate does not keep
from being reached. -/
def GivesScale (source : Source) (scale : Nat) : Prop :=
  ∃ document rate?, source = .ok document ∧ RulesRate document (.ok rate?) ∧
    RulesScale document (.ok (some scale))

/-- A source gives a layout: it is a document with a valid one, which no invalid number keeps from
being reached. -/
def GivesLayout (source : Source) (layout : Layout) : Prop :=
  ∃ document rate? scale?, source = .ok document ∧ RulesRate document (.ok rate?) ∧
    RulesScale document (.ok scale?) ∧ RulesLayout document (.ok (some layout))

/-- A setting becomes what is given, or stays what it was if nothing is. -/
def Takes {Value : Type} (gives : Value → Prop) (present value : Value) : Prop :=
  gives value ∨ value = present ∧ ∀ other, ¬ gives other

section Steps

variable {document : Document} {rate? scale? : Option Nat} {layout? : Option Layout}

theorem takes_rate (rate : RulesRate document (.ok rate?)) (present : Nat) :
    Takes (GivesRate (.ok document)) present (rate?.getD present) := by
  cases rate? with
  | some value => exact .inl ⟨document, rfl, rate⟩
  | none =>
      refine .inr ⟨rfl, ?_⟩
      rintro value ⟨_, ⟨⟩, valid⟩
      cases rate.unique valid

theorem takes_scale
    (rate : RulesRate document (.ok rate?)) (scale : RulesScale document (.ok scale?))
    (present : Nat) : Takes (GivesScale (.ok document)) present (scale?.getD present) := by
  cases scale? with
  | some value => exact .inl ⟨document, rate?, rfl, rate, scale⟩
  | none =>
      refine .inr ⟨rfl, ?_⟩
      rintro value ⟨_, _, ⟨⟩, _, valid⟩
      cases scale.unique valid

theorem takes_layout
    (rate : RulesRate document (.ok rate?)) (scale : RulesScale document (.ok scale?))
    (layout : RulesLayout document (.ok layout?)) (present : Layout) :
    Takes (GivesLayout (.ok document)) present (layout?.getD present) := by
  cases layout? with
  | some value => exact .inl ⟨document, rate?, scale?, rfl, rate, scale, layout⟩
  | none =>
      refine .inr ⟨rfl, ?_⟩
      rintro value ⟨_, _, _, ⟨⟩, _, _, valid⟩
      rcases valid.eq_some_of_valid layout with ⟨_, ⟨⟩⟩

variable {settings after : Settings} {source : Source} {result : Except SettingsError Unit}

theorem Follows.rate (follows : Follows settings source after result) :
    Takes (GivesRate source) settings.cyclesPerSecond after.cyclesPerSecond := by
  cases follows with
  | unavailable =>
      refine .inr ⟨rfl, ?_⟩
      rintro value ⟨_, ⟨⟩, _⟩
  | invalidRate rate =>
      refine .inr ⟨rfl, ?_⟩
      rintro value ⟨_, ⟨⟩, valid⟩
      cases rate.unique valid
  | invalidScale rate => exact takes_rate rate _
  | invalidLayout rate => exact takes_rate rate _
  | read rate => exact takes_rate rate _

theorem Follows.scale (follows : Follows settings source after result) :
    Takes (GivesScale source) settings.scale after.scale := by
  cases follows with
  | unavailable =>
      refine .inr ⟨rfl, ?_⟩
      rintro value ⟨_, _, ⟨⟩, _⟩
  | invalidRate rate =>
      refine .inr ⟨rfl, ?_⟩
      rintro value ⟨_, _, ⟨⟩, valid, _⟩
      cases rate.unique valid
  | invalidScale _ scale =>
      refine .inr ⟨rfl, ?_⟩
      rintro value ⟨_, _, ⟨⟩, _, valid⟩
      cases scale.unique valid
  | invalidLayout rate scale => exact takes_scale rate scale _
  | read rate scale => exact takes_scale rate scale _

theorem Follows.layout (follows : Follows settings source after result) :
    Takes (GivesLayout source) settings.layout after.layout := by
  cases follows with
  | unavailable =>
      refine .inr ⟨rfl, ?_⟩
      rintro value ⟨_, _, _, ⟨⟩, _⟩
  | invalidRate rate =>
      refine .inr ⟨rfl, ?_⟩
      rintro value ⟨_, _, _, ⟨⟩, valid, _⟩
      cases rate.unique valid
  | invalidScale _ scale =>
      refine .inr ⟨rfl, ?_⟩
      rintro value ⟨_, _, _, ⟨⟩, _, valid, _⟩
      cases scale.unique valid
  | invalidLayout _ _ layout =>
      refine .inr ⟨rfl, ?_⟩
      rintro value ⟨_, _, _, ⟨⟩, _, _, valid⟩
      rcases valid.eq_some_of_valid layout with ⟨_, same⟩
      cases same
  | read rate scale layout => exact takes_layout rate scale layout _

end Steps

/-! ## Any sources -/

section Last

variable {Item State Value : Type} {gives : Item → Value → Prop}

/-- A value is the one of the last item that gives one, or the initial value if none does. -/
def LastGiven
    (gives : Item → Value → Prop) (initial : Value) (items : List Item) (value : Value) : Prop :=
  (∃ earlier item later, items = earlier ++ item :: later ∧ gives item value ∧
      ∀ other ∈ later, ∀ another, ¬ gives other another) ∨
    value = initial ∧ ∀ item ∈ items, ∀ another, ¬ gives item another

/-- If every item gives what a part of the state comes to or leaves it as it is, then the part is
the one of the last item that gave it. The first item counts only if no later one gives a value. -/
theorem lastGiven_foldl
    {next : State → Item → State} (part : State → Value)
    (step : ∀ state item, Takes (gives item) (part state) (part (next state item)))
    (state : State) (items : List Item) :
    LastGiven gives (part state) items (part (items.foldl next state)) := by
  induction items generalizing state with
  | nil => exact .inr ⟨rfl, by simp⟩
  | cons item rest lasts =>
      rcases lasts (next state item) with ⟨earlier, giver, later, rfl, given, none⟩ | ⟨same, none⟩
      · exact .inl ⟨item :: earlier, giver, later, rfl, given, none⟩
      · rw [List.foldl_cons, same]
        rcases step state item with given | ⟨kept, silent⟩
        · exact .inl ⟨[], item, rest, rfl, given, none⟩
        · exact .inr ⟨kept, List.forall_mem_cons.mpr ⟨silent, none⟩⟩

/-- What the initial value satisfies, and every value that an item gives, the last satisfies. -/
theorem LastGiven.satisfies
    {initial value : Value} {items : List Item} (valid : Value → Prop)
    (last : LastGiven gives initial items value) (validInitial : valid initial)
    (validGiven : ∀ item value, gives item value → valid value) :
    valid value := by
  rcases last with ⟨_, item, _, _, given, _⟩ | ⟨rfl, _⟩
  · exact validGiven item value given
  · exact validInitial

end Last

/-- The settings after reading sources, each with its path, one after the other. -/
def receiveAll (settings : Settings) (sources : List (String × Source)) : Settings :=
  sources.foldl (fun present source => (present.receive source.1 source.2).settings) settings

/-- What the settings are after some sources: each is the last one given, or the default one, and
within its bounds, so that a step takes the time it should. -/
structure Settled (sources : List (String × Source)) (settings : Settings) : Prop where
  rate : LastGiven (GivesRate ·.2) default.cyclesPerSecond sources settings.cyclesPerSecond
  scale : LastGiven (GivesScale ·.2) default.scale sources settings.scale
  layout : LastGiven (GivesLayout ·.2) default.layout sources settings.layout
  rateWithin : 1 ≤ settings.cyclesPerSecond ∧ settings.cyclesPerSecond ≤ 4294967295
  scaleWithin : 1 ≤ settings.scale ∧ settings.scale ≤ 64
  /-- A second holds as many steps as the rate says, and no longer ones. -/
  step :
    settings.cyclesPerSecond * settings.cycleNanoseconds ≤ 1000000000 ∧
      1000000000 < settings.cyclesPerSecond * (settings.cycleNanoseconds + 1)

/-- A number that is ruled in lies between one and its limit. -/
theorem RulesNumber.within
    {document : Document} {sectionName key : String} {limit number : Nat}
    (rules : RulesNumber document sectionName key limit (.ok (some number))) :
    1 ≤ number ∧ number ≤ limit := by
  cases rules with
  | valid _ written => exact ⟨written.positive, written.atMost⟩

theorem settled_receiveAll (sources : List (String × Source)) :
    Settled sources (default.receiveAll sources) := by
  have rate := lastGiven_foldl cyclesPerSecond
    (fun present source => (follows_receive present source.1 source.2).rate) default sources
  have scale := lastGiven_foldl Settings.scale
    (fun present source => (follows_receive present source.1 source.2).scale) default sources
  have layout := lastGiven_foldl Settings.layout
    (fun present source => (follows_receive present source.1 source.2).layout) default sources
  have rateWithin : 1 ≤ (default.receiveAll sources).cyclesPerSecond ∧
      (default.receiveAll sources).cyclesPerSecond ≤ 4294967295 :=
    rate.satisfies (fun value => 1 ≤ value ∧ value ≤ 4294967295) (by decide)
      fun _ _ ⟨_, _, rules⟩ => rules.within
  have scaleWithin : 1 ≤ (default.receiveAll sources).scale ∧
      (default.receiveAll sources).scale ≤ 64 :=
    scale.satisfies (fun value => 1 ≤ value ∧ value ≤ 64) (by decide)
      fun _ _ ⟨_, _, _, _, rules⟩ => rules.within
  exact
    ⟨rate, scale, layout, rateWithin, scaleWithin, Nat.mul_div_le _ _,
      Nat.lt_mul_div_succ _ rateWithin.1⟩

/--
Whatever sources are read, the settings follow each: one without a document leaves them as they are
and is no error, and a document changes them in order up to its first invalid setting.  So after any
sources each setting is the last one given.

A file is such a source to any parser.  It has a document exactly if it is there, holds a text, and
the parser takes the text for that document.
-/
theorem settings_follow_files (sources : List (String × Source)) :
    (∀ settings path source,
        Follows settings source (settings.receive path source).settings
          (settings.receive path source).result) ∧
      Settled sources (default.receiveAll sources) ∧
      ∀ (parse : Parser) path file document,
        File.source parse path file = .ok document ↔
          ∃ content text, file = .bytes content ∧ String.fromUTF8? content = some text ∧
            parse text = .ok document :=
  ⟨follows_receive, settled_receiveAll sources, source_eq_ok_iff⟩

/-- A missing file changes nothing, a bad layout leaves the scale before it, a key alone keeps its
setting, and a bad rate keeps the scale after it from being reached. -/
def mixedSources : List (String × Source) :=
  [("missing.ini", .error "couldn't read missing.ini: No such file or directory (os error 2)"),
    ("layout.ini", .ok ⟨[("display", [("scale", some " +08 ")]),
      ("keyboard_layout", [("q", some "1"), ("w", some "16")])]⟩),
    ("alone.ini", .ok ⟨[("emulator", [("cycles_per_second", none)]),
      ("keyboard_layout", [("Up", some "0xA")])]⟩),
    ("rate.ini", .ok ⟨[("emulator", [("cycles_per_second", some "0")]),
      ("display", [("scale", some "4")])]⟩)]

theorem settings_follow_files_mixed :
    default.receiveAll mixedSources = ⟨500, 8, [("up", 10)]⟩ ∧
      LastGiven (GivesScale ·.2) 16 mixedSources 8 ∧
      LastGiven (GivesLayout ·.2) defaultLayout mixedSources [("up", 10)] := by
  have read : default.receiveAll mixedSources = ⟨500, 8, [("up", 10)]⟩ := by decide +kernel
  have settled := (settings_follow_files mixedSources).2.1
  rw [read] at settled
  exact ⟨read, settled.scale, settled.layout⟩

/-! ## The files of a host -/

/-- The settings after loading files, each with its path, one after the other. -/
def loadAll (settings : Settings) (files : List (String × File)) : Settings :=
  files.foldl (fun present file => (present.load file.1 file.2).settings) settings

/-- Loading files is receiving the sources that they are to the parser of documents. -/
theorem loadAll_eq_receiveAll (settings : Settings) (files : List (String × File)) :
    settings.loadAll files =
      settings.receiveAll
        (files.map fun file => (file.1, file.2.source documentParser file.1)) := by
  simp only [loadAll, receiveAll, List.foldl_map, load]

/-- After any files of a host, each setting is the one of the last file that gives it. -/
theorem settled_loadAll (files : List (String × File)) :
    Settled (files.map fun file => (file.1, file.2.source documentParser file.1))
      (default.loadAll files) := by
  rw [loadAll_eq_receiveAll]
  exact settled_receiveAll _

end ChipEight.Settings
