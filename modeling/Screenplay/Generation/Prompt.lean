/-
What the service is asked for a test case: instructions, worked examples, and
then the case itself, one line for its name, its description if it has one, and
each of its steps and assertions under a number.
-/
import Screenplay.Spec.Basic

namespace Screenplay.Prompt

open Screenplay.Text (joinLines)

def instructions : String := joinLines [
  "You write Playwright end-to-end tests in TypeScript.",
  "Produce one complete test file for the test case below."]

def outputRules : String := joinLines [
  "Output rules:",
  "- Respond with TypeScript code only, inside a single ```typescript fenced block.",
  "- Do not add explanations, notes or prose before or after the code.",
  "- Import from '@playwright/test' and use test.describe with exactly one test.",
  "- Prefer role, label and text locators over CSS selectors.",
  "- Turn every assertion into at least one expect() call."]

/-- A case and the code that is wanted for it. -/
structure Worked where
  case : String
  code : String

def workedExamples : List Worked := [
  ⟨joinLines [
      "Name: shows validation error for empty email",
      "Steps:",
      "1. Open the signup page",
      "2. Click the Create account button without filling anything",
      "Assertions:",
      "1. An error mentions that email is required"],
    joinLines [
      "```typescript",
      "import \x7b test, expect \x7d from '@playwright/test';",
      "",
      "test.describe('Signup', () => \x7b",
      "  test('shows validation error for empty email', async (\x7b page \x7d) => \x7b",
      "    await page.goto('/signup');",
      "    await page.getByRole('button', \x7b name: 'Create account' \x7d).click();",
      "    await expect(page.getByText(/email is required/i)).toBeVisible();",
      "  \x7d);",
      "\x7d);",
      "```"]⟩,
  ⟨joinLines [
      "Name: paginates results",
      "Steps:",
      "1. Open the orders list",
      "2. Click Next page",
      "Assertions:",
      "1. The page indicator shows page 2",
      "2. A different first order is listed"],
    joinLines [
      "```typescript",
      "import \x7b test, expect \x7d from '@playwright/test';",
      "",
      "test.describe('Orders', () => \x7b",
      "  test('paginates results', async (\x7b page \x7d) => \x7b",
      "    await page.goto('/orders');",
      "    const firstRow = page.getByRole('row').nth(1);",
      "    const before = await firstRow.textContent();",
      "    await page.getByRole('button', \x7b name: /next/i \x7d).click();",
      "    await expect(page.getByText(/page 2/i)).toBeVisible();",
      "    await expect(firstRow).not.toHaveText(before ?? '');",
      "  \x7d);",
      "\x7d);",
      "```"]⟩]

/-- The worked examples from this number on. -/
def examplesText : Nat → List Worked → String
  | _, [] => ""
  | n, e :: rest =>
    "Example " ++ toString n ++ ":\n" ++ e.case ++ "\n" ++ e.code ++ "\n\n" ++
      examplesText (n + 1) rest

/-- All that stands before the case. -/
def preface : String :=
  instructions ++ "\n\n" ++ outputRules ++ "\n\n" ++ examplesText 1 workedExamples ++
    "Test case:\n"

/-- The entries of a list, numbered from here on. -/
def numbered : Nat → List String → List String
  | _, [] => []
  | n, s :: rest => (toString n ++ ". " ++ s) :: numbered (n + 1) rest

/-- The case, line by line. -/
def caseLines (c : Case) : List String :=
  ["Name: " ++ c.name] ++
    (if c.description.isEmpty then [] else ["Description: " ++ c.description]) ++
    ["Steps:"] ++ numbered 1 c.steps ++ ["Assertions:"] ++ numbered 1 c.assertions

/-- The prompt of a case. -/
def ofCase (c : Case) : String := preface ++ String.join ((caseLines c).map (· ++ "\n"))

end Screenplay.Prompt
