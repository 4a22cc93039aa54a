/-
The templates of the five flows. Each is a browser test: it opens the page,
carries the steps and the expectations of the case as numbered comments beside
generic actions, and ends with a screenshot named after the screen and the
case. The templates are kept as trees; `source` is their text. What an author has
written gets into a script in one of two ways: into a string in single quotes, or
into a comment that ends with its line.
-/
import Screenplay.Template.Render
import Screenplay.Spec.Basic

namespace Screenplay.Playbook

open Screenplay.Template (Node Construct joinTexts)

/-! ## Texts of an author -/

/-- A character inside single quotes. A carriage return is left out. -/
def quoteChar (c : Char) : List Char :=
  if c = '\\' then ['\\', '\\']
  else if c = '\'' then ['\\', '\'']
  else if c = '\n' then ['\\', 'n']
  else if c = '\r' then []
  else [c]

def quoteChars (s : List Char) : List Char := s.flatMap quoteChar

/-- The body of a string in single quotes that denotes the text. -/
def quote (s : String) : String := .ofList (quoteChars s.toList)

/-- The text on one line, its words one space apart. -/
def comment (s : String) : String := Text.squeezed s

/-! ## Parts -/

/-- Lines of code, each with its end. -/
def code (lines : List String) : Node := .text (String.join (lines.map (· ++ "\n")))

def whenGiven (name : String) (body : List Node) : Node := .block .whenTrue name (joinTexts body)

def whenMissing (name : String) (body : List Node) : Node := .block .whenFalse name (joinTexts body)

/-- Goes to the route of the screen, if it has one. -/
def openRoute : Node :=
  whenGiven "route" [.text "    await page.goto('", .variable "route", code ["');"]]

/-- Goes to a fixed page if the screen has no route. -/
def openInstead (page : String) : Node :=
  whenMissing "route" [code ["    await page.goto('" ++ page ++ "');"]]

/-- A numbered comment for each item of a list. -/
def numbered (list label : String) : Node :=
  .block .each list
    [.text ("    // " ++ label ++ " "), .variable "number", .text ": ", .variable "text",
      .text "\n"]

def steps : Node := numbered "steps" "Step"

def expectations : Node := numbered "assertions" "Expect"

/-- A whole test with this body. -/
def playwrightTest (body : List Node) : List Node :=
  joinTexts <|
    [code ["import \x7b test, expect \x7d from '@playwright/test';", ""],
      .text "test.describe('", .variable "screen", code ["', () => \x7b"],
      .text "  test('", .variable "testName",
      .block .whenTrue "tag" [.text " ", .variable "tag"],
      code ["', async (\x7b page \x7d) => \x7b"],
      .block .whenTrue "description" [.text "    // ", .variable "description", .text "\n"]] ++
    body ++
    [code [""], .text "    await page.screenshot(\x7b path: 'test-results/",
      .helper .kebabCase "screen", .text "-", .helper .kebabCase "testName",
      code [".png' \x7d);", "  \x7d);", "\x7d);"]]

/-! ## Flows -/

def formSubmission : List Node :=
  [openRoute,
    code [
      "    const form = page.locator('form').first();",
      "    await expect(form).toBeVisible();",
      ""],
    steps,
    code [
      "    const inputs = form.locator('input:not([type=\"hidden\"]):not([type=\"submit\"]), textarea');",
      "    const count = await inputs.count();",
      "    for (let i = 0; i < count; i++) \x7b",
      "      const input = inputs.nth(i);",
      "      if (await input.isEditable()) \x7b",
      "        await input.fill(`value-$\x7bi + 1\x7d`);",
      "      \x7d",
      "    \x7d",
      "    await form.locator('[type=\"submit\"], button:not([type])').first().click();",
      ""],
    expectations,
    code ["    await expect(page.locator('[aria-invalid=\"true\"]')).toHaveCount(0);"]]

def navigation : List Node :=
  [openRoute,
    openInstead "/",
    code [
      "    await page.waitForLoadState('domcontentloaded');",
      "    const startUrl = page.url();",
      ""],
    steps,
    code [
      "    const link = page.getByRole('link').first();",
      "    await expect(link).toBeVisible();",
      "    await link.click();",
      "    await page.waitForLoadState('domcontentloaded');",
      ""],
    expectations,
    code [
      "    expect(page.url()).not.toBe(startUrl);",
      "    await expect(page.locator('body')).toBeVisible();"]]

def modalDialog : List Node :=
  [openRoute,
    code [""],
    steps,
    code [
      "    await page.getByRole('button').first().click();",
      "    const dialog = page.getByRole('dialog');",
      "    await expect(dialog).toBeVisible();",
      ""],
    expectations,
    code [
      "    await page.keyboard.press('Escape');",
      "    await expect(dialog).toBeHidden();"]]

def listFilter : List Node :=
  [openRoute,
    code ["    const items = page.locator('[role=\"listitem\"], li, tbody tr');"],
    whenGiven "skipIfEmpty"
      [code ["    test.skip((await items.count()) === 0, 'No items to filter');"]],
    code [""],
    steps,
    code [
      "    const before = await items.count();",
      "    const search = page.getByRole('searchbox')" ++
        ".or(page.getByPlaceholder(/search|filter/i)).first();",
      "    await search.fill('a');",
      "    await page.waitForLoadState('networkidle');",
      ""],
    expectations,
    code ["    expect(await items.count()).toBeLessThanOrEqual(before);"]]

def authFlow : List Node :=
  [openRoute,
    openInstead "/login",
    code [""],
    steps,
    code [
      "    await page.getByLabel(/email|username/i)" ++
        ".fill(process.env.E2E_USER_EMAIL ?? 'user@example.com');",
      "    await page.getByLabel(/password/i)" ++
        ".fill(process.env.E2E_USER_PASSWORD ?? 'password');",
      "    await page.getByRole('button', \x7b name: /log in|sign in/i \x7d).click();",
      ""],
    expectations,
    code ["    await expect(page).not.toHaveURL(/login/);"]]

/-- The tree of the template of a flow. -/
def script : Flow → List Node
  | .formSubmission => playwrightTest formSubmission
  | .navigation => playwrightTest navigation
  | .modalDialog => playwrightTest modalDialog
  | .listFilter => playwrightTest listFilter
  | .authFlow => playwrightTest authFlow

/-- The text of the template of a flow. -/
def source (flow : Flow) : String := Template.printNodes (script flow)

/-! ## Cases -/

/-- The numbered items of a list. -/
def numberedItems (items : List String) : Json :=
  .array (items.zipIdx.map fun (text, i) =>
    .object [("number", .nat (i + 1)), ("text", .string (comment text))])

/-- What the templates can name of a case of a screen. -/
def context (screen : Screen) (case : Case) : Context :=
  ⟨Json.orderMembers (
    [("screen", .string (quote screen.name)),
      ("screenDescription", .string (comment screen.description)),
      ("testName", .string (quote case.name)),
      ("description", .string (comment case.description)),
      ("steps", numberedItems case.steps),
      ("assertions", numberedItems case.assertions),
      ("stepCount", .nat case.steps.length),
      ("assertionCount", .nat case.assertions.length),
      ("skipIfEmpty", .bool case.skipIfEmpty)] ++
    (screen.route.map fun route => ("route", .string (quote route))).toList ++
    (case.priority.elim [] fun p =>
      [("priority", .string p.name), ("tag", .string ("@" ++ p.name))]))⟩

/-- The test of a case, from the template of a flow. -/
def render (flow : Flow) (screen : Screen) (case : Case) : String :=
  Template.render ⟨script flow⟩ (context screen case)

end Screenplay.Playbook
