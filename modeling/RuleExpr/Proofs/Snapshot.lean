import RuleExpr.Proofs.Transparency
/-!
Snapshots: what a session is told while the catalog behind it changes. With room for all the questions of
a run, each of them comes through to the catalog once and is answered from then on as it was at that
time. With no room at all, every one of them meets the catalog as it is.
-/
namespace RuleExpr

/-- A question that was asked, with the answer to it and the catalog as it was at that time. -/
structure Ask where
  catalog : Catalog
  key : String × String
  answer : Option FieldType

/-- The answer that the catalog had at that time. -/
def Ask.current (ask : Ask) : Option FieldType :=
  ask.catalog.get? ask.key.1 ask.key.2

/-- The inquiry with a record of what it asked and was told, whoever answered. -/
def Inquiry.recorded {α : Type} (catalog : Catalog) :
    List Ask → Inquiry α → Inquiry (Except Refusal α × List Ask)
  | asks, .done answer => .done (.ok answer, asks)
  | asks, .refuse refusal => .done (.error refusal, asks)
  | asks, .ask entity path next => .ask entity path fun type =>
      (next type).recorded catalog (asks ++ [⟨catalog, (entity, path), type⟩])
  | asks, .note event rest => .note event (rest.recorded catalog asks)

namespace Memo

/-- What an inquiry asks and is told when it is put to the memo first and then to the catalog. -/
def asks {α : Type} (memo : Memo) (catalog : Catalog) (inquiry : Inquiry α) : List Ask :=
  match (memo.serve catalog.resolver (inquiry.recorded catalog [])).answer with
  | .ok (_, asks) => asks
  | .error _ => []

section

variable {α : Type} (memo : Memo) (catalog : Catalog)

/-- An inquiry goes the same way whether or not it is recorded. -/
theorem exists_serve_recorded (inquiry : Inquiry α) :
    ∃ later, ∀ earlier,
      memo.serve catalog.resolver (inquiry.recorded catalog earlier) =
        (memo.serve catalog.resolver inquiry).map fun outcome =>
          .ok (outcome, earlier ++ later) := by
  induction inquiry generalizing memo with
  | done answer => exact ⟨[], fun earlier => by simp [Inquiry.recorded, serve_done, Served.map]⟩
  | refuse refusal =>
      exact ⟨[], fun earlier => by simp [Inquiry.recorded, serve_done, serve_refuse, Served.map]⟩
  | note event rest ih => exact ih memo
  | ask entity path next ih =>
      cases hkept : memo.kept[(entity, path)]? with
      | some type =>
          obtain ⟨later, hlater⟩ := ih type memo.afterHit
          refine ⟨⟨catalog, (entity, path), type⟩ :: later, fun earlier => ?_⟩
          rw [Inquiry.recorded, serve_hit memo _ hkept, serve_hit memo _ hkept, hlater,
            List.append_assoc, List.singleton_append]
      | none =>
          let type := catalog.resolver entity path
          obtain ⟨later, hlater⟩ := ih type (memo.afterMiss (entity, path) type)
          refine ⟨⟨catalog, (entity, path), type⟩ :: later, fun earlier => ?_⟩
          rw [Inquiry.recorded, serve_miss memo _ hkept, serve_miss memo _ hkept]
          simp only [type, hlater, Served.map, List.append_assoc, List.singleton_append]

theorem serve_recorded (inquiry : Inquiry α) (earlier : List Ask) :
    memo.serve catalog.resolver (inquiry.recorded catalog earlier) =
      (memo.serve catalog.resolver inquiry).map fun outcome =>
        .ok (outcome, earlier ++ memo.asks catalog inquiry) := by
  obtain ⟨later, hlater⟩ := exists_serve_recorded memo catalog inquiry
  have hasks : memo.asks catalog inquiry = later := by
    simp only [asks, hlater, Served.map, List.nil_append]
  rw [hlater, hasks]

theorem asks_done (answer : α) : memo.asks catalog (.done answer) = [] :=
  rfl

theorem asks_refuse (refusal : Refusal) :
    memo.asks catalog (.refuse refusal : Inquiry α) = [] :=
  rfl

theorem asks_note (event : Event) (rest : Inquiry α) :
    memo.asks catalog (.note event rest) = memo.asks catalog rest :=
  rfl

theorem asks_hit {entity path : String} {type : Option FieldType}
    (h : memo.kept[(entity, path)]? = some type) (next : Option FieldType → Inquiry α) :
    memo.asks catalog (.ask entity path next) =
      ⟨catalog, (entity, path), type⟩ :: memo.afterHit.asks catalog (next type) := by
  rw [asks, Inquiry.recorded, serve_hit memo _ h, serve_recorded]
  rfl

theorem asks_miss {entity path : String} (h : memo.kept[(entity, path)]? = none)
    (next : Option FieldType → Inquiry α) :
    memo.asks catalog (.ask entity path next) =
      let type := catalog.resolver entity path
      ⟨catalog, (entity, path), type⟩ ::
        (memo.afterMiss (entity, path) type).asks catalog (next type) := by
  rw [asks, Inquiry.recorded, serve_miss memo _ h]
  simp only [serve_recorded]
  rfl

end

end Memo

namespace Session

/-- A step of a run: a use of the memo, or a change of the catalog behind it. -/
inductive Step where
  | use (use : Use)
  | insert (entity path : String) (type : FieldType)

def after (session : Session) : Step → Session
  | .use (.resolve entity path) => (session.resolve entity path).2
  | .use (.write dialect entity rule) => (session.write dialect entity rule).2
  | .use .count => session.count.2
  | .insert entity path type => session.insert entity path type

def run : Session → List Step → Session :=
  List.foldl after

/-- What is asked and told in one step. -/
def asked (session : Session) : Step → List Ask
  | .use (.resolve entity path) =>
      [⟨session.catalog, (entity, path), (session.resolve entity path).1⟩]
  | .use (.write dialect entity rule) =>
      session.memo.asks session.catalog (dialect.write entity rule)
  | .use .count | .insert .. => []

/-- What is asked and told in a run, in order. -/
def asks : Session → List Step → List Ask
  | _, [] => []
  | session, step :: steps => session.asked step ++ (session.after step).asks steps

theorem asked_resolve (session : Session) (entity path : String) :
    session.asked (.use (.resolve entity path)) =
      session.memo.asks session.catalog (.ask entity path .done) := by
  cases hkept : session.memo.kept[(entity, path)]? with
  | some type =>
      rw [Memo.asks_hit _ _ hkept, Memo.asks_done]
      simp only [asked, resolve, take, Memo.resolve, Served.map, Memo.serve_hit _ _ hkept,
        Memo.serve_done]
  | none =>
      simp only [Memo.asks_miss _ _ hkept, Memo.asks_done, asked, resolve, take, Memo.resolve,
        Served.map, Memo.serve_miss _ _ hkept, Memo.serve_done]

end Session

/-- The relation between what was asked so far, the questions that were passed on, and the memo lasts
through every question and every tidying, whatever the catalog is by then. -/
structure Memo.Lasting (P : List Ask → List (String × String) → Memo → Prop) : Prop where
  hit : ∀ {asks passed memo key type}, P asks passed memo → memo.kept[key]? = some type →
    ∀ catalog, P (asks ++ [⟨catalog, key, type⟩]) passed memo.afterHit
  miss : ∀ {asks passed memo key}, P asks passed memo → memo.kept[key]? = none →
    ∀ catalog : Catalog, let type := catalog.resolver key.1 key.2
      P (asks ++ [⟨catalog, key, type⟩]) (passed ++ [key]) (memo.afterMiss key type)
  tidied : ∀ {asks passed memo}, P asks passed memo → P asks passed memo.tidied

namespace Memo.Lasting

variable {P : List Ask → List (String × String) → Memo → Prop}

theorem serve {α : Type} (hP : Memo.Lasting P) (catalog : Catalog) (inquiry : Inquiry α)
    {asks : List Ask} {passed : List (String × String)} {memo : Memo} (h : P asks passed memo) :
    let served := memo.serve catalog.resolver inquiry
    P (asks ++ memo.asks catalog inquiry) (passed ++ served.passed) served.memo := by
  induction inquiry generalizing asks passed memo with
  | done answer => simpa [asks_done, serve_done] using h
  | refuse refusal => simpa [asks_refuse, serve_refuse] using h
  | note event rest ih => simpa only [asks_note, serve_note] using ih h
  | ask entity path next ih =>
      cases hkept : memo.kept[(entity, path)]? with
      | some type =>
          have hlater := ih type (hP.hit h hkept catalog)
          simpa only [serve_hit memo _ hkept, asks_hit memo _ hkept, List.append_assoc,
            List.singleton_append] using hlater
      | none =>
          have hlater := ih (catalog.resolver entity path) (hP.miss h hkept catalog)
          simpa only [serve_miss memo _ hkept, asks_miss memo _ hkept, List.append_assoc,
            List.singleton_append] using hlater

theorem after (hP : Memo.Lasting P) {asks : List Ask} {session : Session}
    (h : P asks session.passed.reverse session.memo) (step : Session.Step) :
    P (asks ++ session.asked step) (session.after step).passed.reverse
      (session.after step).memo := by
  cases step with
  | use use =>
      cases use with
      | resolve entity path =>
          rw [Session.asked_resolve]
          simpa [Session.after, Session.resolve, Session.take, Memo.resolve, Served.map]
            using hP.serve session.catalog (.ask entity path .done) h
      | write dialect entity rule =>
          simpa [Session.after, Session.write, Session.take, Session.asked, Memo.write]
            using hP.serve session.catalog (dialect.write entity rule) h
      | count =>
          simpa [Session.after, Session.count, Session.take, Session.asked, Memo.count]
            using hP.tidied h
  | insert entity path type => simpa [Session.asked, Session.after, Session.insert] using h

/-- What lasts through every question holds at the end of every run. -/
theorem run (hP : Memo.Lasting P) {asks : List Ask} {session : Session}
    (h : P asks session.passed.reverse session.memo) (steps : List Session.Step) :
    P (asks ++ session.asks steps) (session.run steps).passed.reverse (session.run steps).memo := by
  induction steps generalizing asks session with
  | nil => simpa [Session.asks, Session.run] using h
  | cons step steps ih =>
      have hlater := ih (hP.after h step)
      rwa [List.append_assoc] at hlater

end Memo.Lasting

/-- The questions asked, each of them once, in the order in which they first came. -/
def Ask.keys (asks : List Ask) : List (String × String) :=
  (asks.map Ask.key).eraseDups

namespace Ask

theorem length_keys_le_append (asks later : List Ask) :
    (keys asks).length ≤ (keys (asks ++ later)).length := by
  rw [keys, keys, List.map_append, List.eraseDups_append, List.length_append]
  omega

theorem keys_append_of_mem {asks : List Ask} {ask : Ask} (h : ask.key ∈ asks.map key) :
    keys (asks ++ [ask]) = keys asks := by
  have hrest : [ask.key].removeAll (asks.map key) = [] := by simpa [List.removeAll] using h
  rw [keys, keys, List.map_append, List.map_singleton, List.eraseDups_append, hrest,
    List.eraseDups_nil, List.append_nil]

theorem keys_append_of_not_mem {asks : List Ask} {ask : Ask} (h : ask.key ∉ asks.map key) :
    keys (asks ++ [ask]) = keys asks ++ [ask.key] := by
  have hrest : [ask.key].removeAll (asks.map key) = [ask.key] := by
    simpa [List.removeAll] using h
  rw [keys, keys, List.map_append, List.map_singleton, List.eraseDups_append, hrest,
    List.eraseDups_cons, List.filter_nil, List.eraseDups_nil]

theorem find?_append_of_mem {asks : List Ask} {ask : Ask} (h : ask.key ∈ asks.map key)
    (other : String × String) :
    (asks ++ [ask]).find? (·.key == other) = asks.find? (·.key == other) := by
  rw [List.find?_append]
  by_cases hother : ask.key = other
  · obtain ⟨earlier, hearlier, hkey⟩ := List.mem_map.mp h
    have hfound : (asks.find? (·.key == other)).isSome :=
      List.find?_isSome.mpr ⟨earlier, hearlier, by simp [hkey, hother]⟩
    exact Option.or_of_isSome hfound
  · rw [List.find?_singleton, if_neg (by simpa using hother), Option.or_none]

theorem find?_append_of_not_mem {asks : List Ask} {ask : Ask} (h : ask.key ∉ asks.map key)
    (other : String × String) :
    (asks ++ [ask]).find? (·.key == other) =
      if ask.key == other then some ask else asks.find? (·.key == other) := by
  rw [List.find?_append, List.find?_singleton]
  by_cases hother : ask.key = other
  · have hnone : asks.find? (·.key == other) = none := by
      simpa [← hother] using h
    rw [hnone, Option.none_or, if_pos (by simpa using hother)]
  · rw [if_neg (by simpa using hother), if_neg (by simpa using hother), Option.or_none]

end Ask

theorem Memo.kept_eq_answers {memo : Memo} (h : memo.drops = fun _ => []) :
    memo.kept = memo.answers := by
  rw [kept, h]
  rfl

/-- A memo remembers every question asked so far as the catalog first answered it, and no other
question. -/
structure Memo.Recalls (asks : List Ask) (passed : List (String × String)) (memo : Memo) :
    Prop where
  drops_eq : memo.drops = fun _ => []
  passed_eq : passed = Ask.keys asks
  size_eq : memo.answers.size = passed.length
  getElem?_eq : ∀ key, memo.answers[key]? = (asks.find? (·.key == key)).map Ask.current
  told : ∀ ask ∈ asks, memo.answers[ask.key]? = some ask.answer

namespace Memo.Recalls

variable {asks : List Ask} {passed : List (String × String)} {memo : Memo} {key : String × String}

theorem mem_keys_iff (h : memo.Recalls asks passed) :
    key ∈ asks.map Ask.key ↔ memo.kept[key]?.isSome := by
  rw [kept_eq_answers h.drops_eq, h.getElem?_eq]
  simp

theorem hit (h : memo.Recalls asks passed) {type : Option FieldType}
    (hkept : memo.kept[key]? = some type) (catalog : Catalog) :
    memo.afterHit.Recalls (asks ++ [⟨catalog, key, type⟩]) passed := by
  have hanswers : memo.afterHit.answers = memo.answers := kept_eq_answers h.drops_eq
  have hmem : key ∈ asks.map Ask.key := by simp only [h.mem_keys_iff, hkept, Option.isSome_some]
  refine ⟨h.drops_eq, ?_, hanswers ▸ h.size_eq, fun other => ?_, fun ask hask => ?_⟩
  · rw [Ask.keys_append_of_mem hmem, h.passed_eq]
  · rw [hanswers, Ask.find?_append_of_mem hmem, h.getElem?_eq]
  · rw [hanswers]
    rcases List.mem_append.mp hask with hearlier | hlast
    · exact h.told ask hearlier
    · obtain rfl := List.mem_singleton.mp hlast
      exact getElem?_of_kept hkept

theorem miss (h : memo.Recalls asks passed) (hkept : memo.kept[key]? = none) (catalog : Catalog)
    (hroom : passed.length < memo.capacity) :
    let type := catalog.resolver key.1 key.2
    (memo.afterMiss key type).Recalls (asks ++ [⟨catalog, key, type⟩]) (passed ++ [key]) := by
  intro type
  have hanswers : (memo.afterMiss key type).answers = memo.answers.insert key type := by
    have hsize : memo.answers.size < memo.capacity := h.size_eq ▸ hroom
    simp only [afterMiss, kept_eq_answers h.drops_eq, hsize, decide_true, Bool.true_or, if_true]
  have hnew : key ∉ asks.map Ask.key := by simp [h.mem_keys_iff, hkept]
  refine ⟨h.drops_eq, ?_, ?_, fun other => ?_, fun ask hask => ?_⟩
  · rw [Ask.keys_append_of_not_mem hnew, h.passed_eq]
  · have hfree : key ∉ memo.answers := by
      simp [← kept_eq_answers h.drops_eq, Std.HashMap.mem_iff_isSome_getElem?, hkept]
    rw [hanswers, Std.HashMap.size_insert, if_neg hfree, h.size_eq, List.length_append,
      List.length_singleton]
  · rw [hanswers, Std.HashMap.getElem?_insert, Ask.find?_append_of_not_mem hnew]
    split
    · rfl
    · exact h.getElem?_eq other
  · rw [hanswers, Std.HashMap.getElem?_insert]
    rcases List.mem_append.mp hask with hearlier | hlast
    · have hne : key ≠ ask.key := by
        rintro rfl
        exact hnew (List.mem_map_of_mem hearlier)
      rw [if_neg (by simpa using hne)]
      exact h.told ask hearlier
    · obtain rfl := List.mem_singleton.mp hlast
      rw [if_pos (beq_self_eq_true key)]

theorem tidied_answers (h : memo.Recalls asks passed) (hroom : passed.length ≤ memo.capacity) :
    memo.tidied.answers = memo.answers := by
  have hkeys : memo.answers.keys.drop memo.capacity = [] := by
    rw [List.drop_eq_nil_iff, Std.HashMap.length_keys, h.size_eq]
    exact hroom
  rw [tidied, kept_eq_answers h.drops_eq, hkeys]
  rfl

theorem tidied (h : memo.Recalls asks passed) (hroom : passed.length ≤ memo.capacity) :
    memo.tidied.Recalls asks passed := by
  have hanswers := h.tidied_answers hroom
  exact ⟨h.drops_eq, h.passed_eq, hanswers ▸ h.size_eq, hanswers ▸ h.getElem?_eq,
    hanswers ▸ h.told⟩

end Memo.Recalls

/-- A memo recalls what was asked as long as that is not more than its capacity. -/
structure Memo.RecallsWithin (capacity : Nat) (asks : List Ask) (passed : List (String × String))
    (memo : Memo) : Prop where
  capacity_eq : memo.capacity = capacity
  recalls : (Ask.keys asks).length ≤ capacity → memo.Recalls asks passed

-- If there is room for everything asked up to some time, then there was room at every earlier time.
theorem Memo.lasting_recallsWithin (capacity : Nat) :
    Memo.Lasting (Memo.RecallsWithin capacity) where
  hit {asks passed memo key type} h hkept catalog := by
    refine ⟨h.capacity_eq, fun hroom => ?_⟩
    have hearlier := Nat.le_trans (Ask.length_keys_le_append asks _) hroom
    exact (h.recalls hearlier).hit hkept catalog
  miss {asks passed memo key} h hkept catalog := by
    refine ⟨h.capacity_eq, fun hroom => ?_⟩
    have hearlier := h.recalls (Nat.le_trans (Ask.length_keys_le_append asks _) hroom)
    have hnew : key ∉ asks.map Ask.key := by simp [hearlier.mem_keys_iff, hkept]
    have hlength : passed.length < memo.capacity := by
      rw [Ask.keys_append_of_not_mem hnew, List.length_append, List.length_singleton] at hroom
      rw [hearlier.passed_eq, h.capacity_eq]
      exact hroom
    exact hearlier.miss hkept catalog hlength
  tidied {asks passed memo} h := by
    refine ⟨h.capacity_eq, fun hroom => ?_⟩
    have hrecalls := h.recalls hroom
    apply hrecalls.tidied
    rw [hrecalls.passed_eq, h.capacity_eq]
    exact hroom

/-- A memo without room knows no answer and passes every question on. -/
structure Memo.Forgets (asks : List Ask) (passed : List (String × String)) (memo : Memo) :
    Prop where
  capacity_eq : memo.capacity = 0
  overfills_eq : memo.overfills = fun _ => false
  answers_eq : ∀ key : String × String, memo.answers[key]? = none
  passed_eq : passed = asks.map Ask.key
  told : ∀ ask ∈ asks, ask.answer = ask.current

theorem Memo.Forgets.kept_eq {asks : List Ask} {passed : List (String × String)} {memo : Memo}
    (h : memo.Forgets asks passed) (key : String × String) : memo.kept[key]? = none := by
  cases hkept : memo.kept[key]? with
  | none => rfl
  | some type => simpa [h.answers_eq] using getElem?_of_kept hkept

theorem Memo.lasting_forgets : Memo.Lasting Memo.Forgets where
  hit {asks passed memo key type} h hkept catalog := by
    rw [h.kept_eq] at hkept
    contradiction
  miss {asks passed memo key} h hkept catalog := by
    refine ⟨h.capacity_eq, h.overfills_eq, fun other => ?_, ?_, fun ask hask => ?_⟩
    · simp only [afterMiss, h.capacity_eq, h.overfills_eq, Nat.not_lt_zero, decide_false,
        Bool.or_false, Bool.false_eq_true, if_false, h.kept_eq]
    · rw [h.passed_eq, List.map_append, List.map_singleton]
    · rcases List.mem_append.mp hask with hearlier | hlast
      · exact h.told ask hearlier
      · obtain rfl := List.mem_singleton.mp hlast
        rfl
  tidied {asks passed memo} h := by
    refine ⟨h.capacity_eq, h.overfills_eq, fun key => ?_, h.passed_eq, h.told⟩
    rw [tidied, Answers.getElem?_without, h.kept_eq, ite_self]

namespace Session

/-- Each question came through to the catalog once, in the order in which they were first asked. It was
always answered as the catalog would have answered it that first time, and it is still remembered. -/
structure Remembers (asks : List Ask) (session : Session) : Prop where
  answer_eq : ∀ ask ∈ asks, ∃ first,
    asks.find? (·.key == ask.key) = some first ∧ ask.answer = first.current
  passed_eq : session.passed.reverse = Ask.keys asks
  count_eq : session.count.1 = (Ask.keys asks).length

/-- Every question came through to the catalog, each time, and was answered as the catalog was then. None
is remembered. -/
structure Forwards (asks : List Ask) (session : Session) : Prop where
  answer_eq : ∀ ask ∈ asks, ask.answer = ask.current
  passed_eq : session.passed.reverse = asks.map Ask.key
  count_eq : session.count.1 = 0

theorem remembers_of_recallsWithin {capacity : Nat} {asks : List Ask} {session : Session}
    (h : session.memo.RecallsWithin capacity asks session.passed.reverse)
    (hroom : (Ask.keys asks).length ≤ capacity) : session.Remembers asks := by
  have hrecalls := h.recalls hroom
  refine ⟨fun ask hask => ?_, hrecalls.passed_eq, ?_⟩
  · have htold := hrecalls.told ask hask
    rw [hrecalls.getElem?_eq, Option.map_eq_some_iff] at htold
    obtain ⟨first, hfirst, hcurrent⟩ := htold
    exact ⟨first, hfirst, hcurrent.symm⟩
  · have hlength : session.passed.reverse.length ≤ session.memo.capacity := by
      rw [hrecalls.passed_eq, h.capacity_eq]
      exact hroom
    calc session.memo.tidied.answers.size
        = session.memo.answers.size := by rw [hrecalls.tidied_answers hlength]
      _ = (Ask.keys asks).length := by rw [hrecalls.size_eq, hrecalls.passed_eq]

theorem forwards_of_forgets {asks : List Ask} {session : Session}
    (h : session.memo.Forgets asks session.passed.reverse) : session.Forwards asks := by
  refine ⟨h.told, h.passed_eq, ?_⟩
  have hcount : session.memo.size ≤ 0 := h.capacity_eq ▸ session.memo.size_le
  exact Nat.le_zero.mp hcount

/-- A memo with room for all the questions of a run, whatever would become of more, keeps the first
answer to each. A memo without room changes nothing, whatever it would drop. -/
theorem answers_as_first_asked (catalog : Catalog) (steps : List Step) :
    (∀ capacity overfills,
      let session : Session := { catalog, memo := { capacity, overfills } }
      let asks := session.asks steps
      (Ask.keys asks).length ≤ capacity → (session.run steps).Remembers asks) ∧
    ∀ drops,
      let session : Session := { catalog, memo := { capacity := 0, drops } }
      (session.run steps).Forwards (session.asks steps) := by
  refine ⟨fun capacity overfills => ?_, fun drops => ?_⟩
  · intro session asks hroom
    have hstart : session.memo.RecallsWithin capacity [] session.passed.reverse :=
      ⟨rfl, fun _ => ⟨rfl, rfl, rfl, by simp [session], by simp⟩⟩
    have hwithin := (Memo.lasting_recallsWithin capacity).run hstart steps
    exact remembers_of_recallsWithin hwithin hroom
  · intro session
    have hstart : session.memo.Forgets [] session.passed.reverse :=
      ⟨rfl, rfl, by simp [session], rfl, by simp⟩
    have hforgets := Memo.lasting_forgets.run hstart steps
    exact forwards_of_forgets hforgets

/-- A field that was asked for before there was any is unknown to a rule that is written when there is. -/
theorem unknown_field_stays_unknown :
    let rule : Rule := .condition ⟨"total", .compare .equal, "5"⟩
    let steps : List Step :=
      [.use (.resolve "order" "total"), .insert "order" "total" .numeric,
        .use (.write .mvel "order" rule), .use .count]
    let session : Session := { catalog := .empty, memo := { capacity := 1 } }
    let asks := session.asks steps
    asks.map Ask.answer = [none, none] ∧ (Ask.keys asks).length ≤ 1 ∧
      (session.run steps).Remembers asks := by
  intro rule steps session asks
  let key := ("order", "total")
  let later := Catalog.empty.insert "order" "total" .numeric
  have hasks : asks = [⟨.empty, key, none⟩, ⟨later, key, none⟩] := by
    have hfirst : session.memo.kept[key]? = none := by
      simp [Memo.kept, Answers.without, session]
    have hagain : (session.memo.afterMiss key none).kept[key]? = some none := by
      simp [Memo.afterMiss, Memo.kept, Answers.without, session]
    have hresolve : session.resolve "order" "total" =
        (none, { session with memo := session.memo.afterMiss key none, passed := [key] }) := by
      simp only [resolve, Memo.resolve, Memo.serve_miss _ _ hfirst, Memo.serve_done, take,
        Served.map]
      rfl
    obtain ⟨next, event, hwrite, hnext⟩ : ∃ next event,
        Dialect.mvel.write "order" rule = .ask "order" "total" next ∧
          next none = .note event (.refuse (.unknownField "order" "total")) :=
      ⟨_, _, rfl, rfl⟩
    have hwritten : (session.memo.afterMiss key none).asks later (Dialect.mvel.write "order" rule) =
        [⟨later, key, none⟩] := by
      rw [hwrite, Memo.asks_hit _ _ hagain, hnext, Memo.asks_note, Memo.asks_refuse]
    simp only [asks, Session.asks, steps, asked, after, hresolve, insert]
    change [_] ++ ((session.memo.afterMiss key none).asks later (Dialect.mvel.write "order" rule) ++
      []) = _
    rw [hwritten]
    rfl
  have hroom : (Ask.keys asks).length ≤ 1 := by
    rw [hasks]
    decide
  refine ⟨by rw [hasks]; rfl, hroom, ?_⟩
  exact (answers_as_first_asked .empty steps).1 1 (fun _ => false) hroom

end Session

end RuleExpr
