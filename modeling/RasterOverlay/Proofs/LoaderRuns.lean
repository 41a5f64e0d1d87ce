import RasterOverlay.Proofs.ServiceUrl
import RasterOverlay.Proofs.TemplateUrl

/-!
Runs of a loader. A loader keeps nothing between its steps, so all that ties a run together is the
sender: the answer to a request depends on how many requests went out before it. A run is described
by one record for each step, and the answer that a load has to use is found by counting the
requests of the records in front of it.
-/

namespace RasterOverlay

/-- Answers that are given in turn, the last one again and again. -/
structure AnswerScript where
  answers : List (Except TileError Response)
  answers_ne_nil : answers ≠ []

namespace AnswerScript

/-- The answer to the request with this number. -/
def answer (s : AnswerScript) (n : Nat) : Except TileError Response :=
  s.answers.getD n (s.answers.getLast s.answers_ne_nil)

/-- A sender that follows a script; its state is the requests that it was given so far. -/
def send (s : AnswerScript) (r : Request) :
    StateM (List Request) (Except TileError Response) :=
  modifyGet fun sent => (s.answer sent.length, sent ++ [r])

end AnswerScript

/-- What a loader can be asked for. -/
inductive LoaderStep where
  | load (t : Tile)
  /-- A load in a task of its own, which is waited for. -/
  | spawn (t : Tile)
  | url (t : Tile)
  | outlook (t : Tile)

inductive StepResult where
  | tile (r : LoadedTile)
  | url (u : Except TileError String)
  | outlook (known : TileOutlook)

/-- A step of a run with the requests that it makes and what comes of it. -/
structure StepRecord where
  step : LoaderStep
  requests : List Request
  result : StepResult

namespace TileLoader

section

variable {m : Type → Type} [Monad m] (send : Request → m (Except TileError Response))

def perform (l : TileLoader) : LoaderStep → m StepResult
  | .load t | .spawn t => return .tile (← l.load send t)
  | .url t => return .url (l.url t)
  | .outlook t => return .outlook (l.outlook t)

/-- Performs steps one after the other. -/
def performAll (l : TileLoader) (steps : List LoaderStep) : m (List StepResult) :=
  steps.mapM (l.perform send)

end

end TileLoader

/-- A response with an image: it has a body, and its status is that of a success or none at all. -/
def Response.HasImage (r : Response) : Prop :=
  (r.status.toNat = 0 ∨ 200 ≤ r.status.toNat ∧ r.status.toNat ≤ 299) ∧ r.body.size ≠ 0

/-- What the result of a load is: an image or one error, and what is known of the tile anyway. -/
structure LoadedTile.Complete (r : LoadedTile) (known : TileOutlook) : Prop where
  loaded_iff : r.image ≠ none ↔ r.errors = []
  image_nonempty : ∀ image, r.image = some image → image.size ≠ 0
  one_error : r.image = none → ∃ message, r.errors = [message]
  no_warnings : r.warnings = []
  no_credits : r.credits = []
  rectangle_eq : r.rectangle = known.rectangle
  moreDetail_eq : r.moreDetail = known.moreDetail

/-- How a tile is loaded: `requests` are those that the load makes, and `answer` is the one that it
gets if it makes one. -/
structure TileLoader.Loads (l : TileLoader) (headers : List (String × String)) (t : Tile)
    (answer : Except TileError Response) (requests : List Request) (r : LoadedTile) : Prop where
  silent_iff : requests = [] ↔ ∃ e, l.url t = .error e
  of_no_url : ∀ e, l.url t = .error e → e.beforeRequest = true ∧ r.errors = [e.message]
  of_url : ∀ u, l.url t = .ok u →
    requests = [⟨u, headers⟩] ∧ r = .ofAnswer u answer (l.outlook t)
  image_iff : ∀ image, r.image = some image ↔
    (∃ u, l.url t = .ok u) ∧ ∃ response, answer = .ok response ∧ response.HasImage ∧
      image = response.body
  complete : r.Complete (l.outlook t)

/-- Whether a record is what its step has to come to. -/
def StepRecord.Meets (record : StepRecord) (l : TileLoader) (headers : List (String × String))
    (answer : Except TileError Response) : Prop :=
  match record.step with
  | .load t | .spawn t =>
    ∃ r, record.result = .tile r ∧ l.Loads headers t answer record.requests r
  | .url t => record.requests = [] ∧ record.result = .url (l.url t)
  | .outlook t => record.requests = [] ∧ record.result = .outlook (l.outlook t)

/-! An answer is turned into an image or into one error. -/

namespace LoadedTile

variable (u : String) (known : TileOutlook)

theorem isSuccess_iff (status : UInt16) :
    isSuccess status = true ↔
      status.toNat = 0 ∨ 200 ≤ status.toNat ∧ status.toNat ≤ 299 := by
  have hzero : status = 0 ↔ status.toNat = 0 := UInt16.toNat_inj.symm
  have hlow : 200 ≤ status ↔ 200 ≤ status.toNat := UInt16.le_iff_toNat_le
  have hhigh : status < 300 ↔ status.toNat < 300 := UInt16.lt_iff_toNat_lt
  simp only [isSuccess, Bool.or_eq_true, Bool.and_eq_true, beq_iff_eq, decide_eq_true_eq, hzero,
    hlow, hhigh]
  omega

theorem isEmpty_eq_false_iff (body : ByteArray) : body.isEmpty = false ↔ body.size ≠ 0 := by
  simp [ByteArray.isEmpty]

theorem complete_failed (e : TileError) : (failed e known).Complete known where
  loaded_iff := by simp [failed]
  image_nonempty := by simp [failed]
  one_error := fun _ => ⟨e.message, rfl⟩
  no_warnings := rfl
  no_credits := rfl
  rectangle_eq := rfl
  moreDetail_eq := rfl

theorem complete_loaded {image : ByteArray} (h : image.size ≠ 0) :
    (loaded image known).Complete known where
  loaded_iff := by simp [loaded]
  image_nonempty := by
    intro image' hsome
    cases hsome
    exact h
  one_error := by simp [loaded]
  no_warnings := rfl
  no_credits := rfl
  rectangle_eq := rfl
  moreDetail_eq := rfl

/-- An answer with an image is the only one that a tile is loaded from. -/
theorem ofAnswer_cases (answer : Except TileError Response) :
    (∃ response, answer = .ok response ∧ response.HasImage ∧
      ofAnswer u answer known = loaded response.body known) ∨
    ((∀ response, answer = .ok response → ¬ response.HasImage) ∧
      ∃ e, ofAnswer u answer known = failed e known) := by
  cases answer with
  | error cause => exact Or.inr ⟨by simp, _, rfl⟩
  | ok response =>
    cases hstatus : isSuccess response.status with
    | false =>
      refine Or.inr ⟨?_, .badStatus response.status u, by simp [ofAnswer, hstatus]⟩
      rintro _ ⟨⟩ himage
      rw [(isSuccess_iff _).mpr himage.1] at hstatus
      contradiction
    | true =>
      cases hbody : response.body.isEmpty with
      | true =>
        refine Or.inr ⟨?_, .emptyImage u, by simp [ofAnswer, hstatus, hbody]⟩
        rintro _ ⟨⟩ himage
        rw [(isEmpty_eq_false_iff _).mpr himage.2] at hbody
        contradiction
      | false =>
        refine Or.inl ⟨response, rfl, ⟨?_, ?_⟩, by simp [ofAnswer, hstatus, hbody]⟩
        · exact (isSuccess_iff _).mp hstatus
        · exact (isEmpty_eq_false_iff _).mp hbody

theorem image_ofAnswer_iff (answer : Except TileError Response) (image : ByteArray) :
    (ofAnswer u answer known).image = some image ↔
      ∃ response, answer = .ok response ∧ response.HasImage ∧ image = response.body := by
  rcases ofAnswer_cases u known answer with ⟨response, rfl, himage, hloaded⟩ | ⟨hnone, e, hfailed⟩
  · rw [hloaded]
    simp [loaded, himage, eq_comm]
  · rw [hfailed]
    constructor
    · intro hsome
      cases hsome
    · rintro ⟨response, hok, himage, -⟩
      exact absurd himage (hnone response hok)

theorem complete_ofAnswer (answer : Except TileError Response) :
    (ofAnswer u answer known).Complete known := by
  rcases ofAnswer_cases u known answer with ⟨response, -, himage, hloaded⟩ | ⟨-, e, hfailed⟩
  · rw [hloaded]
    exact complete_loaded known himage.2
  · rw [hfailed]
    exact complete_failed known e

end LoadedTile

/-! A tile without a URL is told before any request. -/

theorem Overlay.beforeRequest_of_fieldFault? {o : Overlay} {t : Tile} {name : String}
    {e : TileError} (h : o.fieldFault? t name = some e) : e.beforeRequest = true := by
  unfold fieldFault? at h
  split_ifs at h <;> cases h <;> rfl

theorem Overlay.beforeRequest_of_serviceFault? {o : Overlay} {t : Tile} {e : TileError}
    (h : o.serviceFault? t = some e) : e.beforeRequest = true := by
  unfold serviceFault? at h
  split_ifs at h <;> cases h <;> rfl

namespace TileLoader

variable {o : Overlay} {l : TileLoader}

theorem beforeRequest_of_url (hl : ofOverlay o = .ok l) {t : Tile} {e : TileError}
    (h : l.url t = .error e) : e.beforeRequest = true := by
  cases hs : o.source with
  | wmts =>
    rw [url_eq_of_wmts hl hs, elim_eq_error_iff] at h
    exact Overlay.beforeRequest_of_serviceFault? h
  | template =>
    by_cases hdeep : 30 < t.level.toNat
    · rw [url_of_too_deep l hdeep] at h
      cases h
      rfl
    · rw [url_eq_of_template hl hs (Nat.not_lt.mp hdeep), elim_eq_error_iff] at h
      -- The failure is that of some placeholder.
      obtain ⟨_, name, _, -, hfault, -⟩ := List.findSome?_eq_some_iff.mp h
      exact Overlay.beforeRequest_of_fieldFault? hfault

theorem headers_of_ofOverlay (hl : ofOverlay o = .ok l) : l.headers = o.headers := by
  obtain ⟨a, -, rfl⟩ := (ofOverlay_eq_ok_iff o l).mp hl
  rfl

/-! One step adds its requests behind those that were sent before it. -/

theorem load_of_script (hl : ofOverlay o = .ok l) (script : AnswerScript) (t : Tile)
    (sent : List Request) :
    ∃ requests r, (l.load script.send t).run sent = (r, sent ++ requests) ∧
      l.Loads o.headers t (script.answer sent.length) requests r := by
  cases hurl : l.url t with
  | error e =>
    refine ⟨[], .failed e (l.outlook t), ?_, ?_⟩
    · rw [load, hurl, List.append_nil]
      rfl
    · exact {
        silent_iff := by simp [hurl]
        of_no_url := by
          intro e' he'
          rw [hurl] at he'
          cases he'
          exact ⟨beforeRequest_of_url hl hurl, rfl⟩
        of_url := by simp [hurl]
        image_iff := by simp [hurl, LoadedTile.failed]
        complete := LoadedTile.complete_failed _ e }
  | ok u =>
    refine ⟨[⟨u, o.headers⟩], .ofAnswer u (script.answer sent.length) (l.outlook t), ?_, ?_⟩
    · rw [load, hurl, headers_of_ofOverlay hl]
      rfl
    · exact {
        silent_iff := by simp [hurl]
        of_no_url := by simp [hurl]
        of_url := by
          intro u' hu'
          rw [hurl] at hu'
          cases hu'
          exact ⟨rfl, rfl⟩
        image_iff := by
          intro image
          rw [LoadedTile.image_ofAnswer_iff]
          simp [hurl]
        complete := LoadedTile.complete_ofAnswer u _ _ }

theorem perform_of_script (hl : ofOverlay o = .ok l) (script : AnswerScript) (step : LoaderStep)
    (sent : List Request) :
    ∃ requests result, (l.perform script.send step).run sent = (result, sent ++ requests) ∧
      (⟨step, requests, result⟩ : StepRecord).Meets l o.headers (script.answer sent.length) := by
  cases step with
  | load t | spawn t =>
    obtain ⟨requests, r, hrun, hloads⟩ := load_of_script hl script t sent
    refine ⟨requests, .tile r, ?_, r, rfl, hloads⟩
    rw [perform, StateT.run_bind, hrun]
    rfl
  | url t =>
    refine ⟨[], .url (l.url t), ?_, rfl, rfl⟩
    rw [List.append_nil]
    rfl
  | outlook t =>
    refine ⟨[], .outlook (l.outlook t), ?_, rfl, rfl⟩
    rw [List.append_nil]
    rfl

/-- The induction is on the steps; `sent` are the requests of the steps behind the run. -/
theorem performAll_of_script (hl : ofOverlay o = .ok l) (script : AnswerScript)
    (steps : List LoaderStep) (sent : List Request) :
    ∃ records : List StepRecord, records.map StepRecord.step = steps ∧
      (l.performAll script.send steps).run sent =
        (records.map StepRecord.result, sent ++ records.flatMap StepRecord.requests) ∧
      ∀ before record after, records = before ++ record :: after →
        record.Meets l o.headers
          (script.answer (sent ++ before.flatMap StepRecord.requests).length) := by
  induction steps generalizing sent with
  | nil =>
    refine ⟨[], rfl, ?_, by simp⟩
    rw [performAll, List.mapM_nil, List.flatMap_nil, List.append_nil]
    rfl
  | cons step steps ih =>
    obtain ⟨requests, result, hstep, hmeets⟩ := perform_of_script hl script step sent
    obtain ⟨records, hsteps, hrun, hrecords⟩ := ih (sent ++ requests)
    refine ⟨⟨step, requests, result⟩ :: records, ?_, ?_, ?_⟩
    · rw [List.map_cons, hsteps]
    · have hfirst : (l.perform script.send step).run sent =
          (pure (result, sent ++ requests) : Id _) := hstep
      rw [performAll] at hrun ⊢
      rw [List.mapM_cons, StateT.run_bind, hfirst, pure_bind]
      simp only [bind_pure_comp, StateT.run_map, hrun, List.map_cons, List.flatMap_cons,
        List.append_assoc]
      rfl
    · intro before record after hsplit
      cases before with
      | nil =>
        -- The first step gets the answer that is due when the run begins.
        obtain ⟨rfl, -⟩ := List.cons.inj hsplit
        rw [List.flatMap_nil, List.append_nil]
        exact hmeets
      | cons first before =>
        obtain ⟨rfl, hrest⟩ := List.cons.inj hsplit
        have hlater := hrecords before record after hrest
        rw [List.append_assoc] at hlater
        exact hlater

/-- A run of any steps is made of one record for each of them. The requests that went out are those
of the records in their order, and each record is what its step has to come to, with the answer
whose number is the count of the requests in front of it. -/
theorem run_follows_script (o : Overlay) (l : TileLoader) (script : AnswerScript)
    (steps : List LoaderStep) (hl : ofOverlay o = .ok l) :
    ∃ records : List StepRecord, records.map StepRecord.step = steps ∧
      (l.performAll script.send steps).run [] =
        (records.map StepRecord.result, records.flatMap StepRecord.requests) ∧
      ∀ before record after, records = before ++ record :: after →
        record.Meets l o.headers
          (script.answer (before.flatMap StepRecord.requests).length) :=
  performAll_of_script hl script steps []

/-- A tile outside the grid takes no answer, so the next two loads get the first two. -/
theorem run_follows_script_past_a_tile_outside :
    let o : Overlay := { url := "{reverseY}", headers := [("Referer", "a")] }
    let image : ByteArray := ⟨#[1]⟩
    let script : AnswerScript := ⟨[.ok ⟨404, image⟩, .ok ⟨200, image⟩], by simp⟩
    ∃ l a b c, ofOverlay o = .ok l ∧
      (l.performAll script.send [.load ⟨0, 0, 1⟩, .load ⟨0, 0, 0⟩, .spawn ⟨1, 0, 0⟩]).run [] =
        ([.tile a, .tile b, .tile c],
          [⟨"0", [("Referer", "a")]⟩, ⟨"1", [("Referer", "a")]⟩]) ∧
      a.errors = ["Tile L0 x=0 y=1 is outside the tiling scheme"] ∧
      b.errors = ["Image response code 404 for 0"] ∧ c.image = some image := by
  intro o image script
  have haccepted := (ofOverlay_eq_ok_iff_of_template (o := o) rfl _).mpr ⟨by decide +kernel, rfl⟩
  generalize withAddressing o _ = l at haccepted
  have hurl (t : Tile) (ht : t.level.toNat ≤ 30) := url_eq_of_template haccepted rfl ht
  have hout : l.url ⟨0, 0, 1⟩ = .error (.outsideGrid ⟨0, 0, 1⟩) := by
    rw [hurl _ (by decide)]
    decide +kernel
  have hzero : l.url ⟨0, 0, 0⟩ = .ok "0" := by
    rw [hurl _ (by decide)]
    decide +kernel
  have hone : l.url ⟨1, 0, 0⟩ = .ok "1" := by
    rw [hurl _ (by decide)]
    decide +kernel
  obtain ⟨records, hsteps, hrun, hmeets⟩ := run_follows_script o l script
    [.load ⟨0, 0, 1⟩, .load ⟨0, 0, 0⟩, .spawn ⟨1, 0, 0⟩] haccepted
  obtain ⟨⟨_, sa, ra⟩, others, rfl, rfl, hothers⟩ := List.map_eq_cons_iff.mp hsteps
  obtain ⟨⟨_, sb, rb⟩, last, rfl, rfl, hlast⟩ := List.map_eq_cons_iff.mp hothers
  obtain ⟨⟨_, sc, rc⟩, none, rfl, rfl, hnone⟩ := List.map_eq_cons_iff.mp hlast
  obtain rfl := List.map_eq_nil_iff.mp hnone
  obtain ⟨a, rfl, ha⟩ := hmeets [] _ _ rfl
  obtain ⟨b, rfl, hb⟩ := hmeets [_] _ _ rfl
  obtain ⟨c, rfl, hc⟩ := hmeets [_, _] _ _ rfl
  -- The first record has no request, so the second load is answered first.
  obtain rfl := ha.silent_iff.mpr ⟨_, hout⟩
  obtain ⟨rfl, hfirst⟩ := hb.of_url _ hzero
  obtain ⟨rfl, hsecond⟩ := hc.of_url _ hone
  refine ⟨l, a, b, c, haccepted, hrun, ?_, ?_, ?_⟩
  · rw [(ha.of_no_url _ hout).2]
    decide +kernel
  · rw [hfirst]
    show [(TileError.badStatus 404 "0").message] = _
    decide +kernel
  · rw [hsecond]
    rfl

end TileLoader

end RasterOverlay
