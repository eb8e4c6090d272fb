import GrowthGauge.Text.Blank

namespace GrowthGauge.Assistant

/-! ## Prompts

What the language model is told about its task, and the question that is put to
it about a snippet. -/

def systemPrompt : String :=
  "You are an expert computer scientist specializing in algorithm analysis " ++
  "and Big O complexity. Always output valid JSON only."

def questionStart : String :=
  "Analyze the time complexity of the following code and provide a detailed Big O analysis.\n" ++
  "\n" ++
  "Code:\n" ++
  "```\n"

def questionEnd : String :=
  "\n```\n" ++
  "\n" ++
  "Return ONLY a JSON object with this exact structure:\n" ++
  "\x7b\n" ++
  "  \"notation\": \"O(n)\",\n" ++
  "  \"explanation\": \"Brief explanation here\",\n" ++
  "  \"steps\": [\"Step 1\", \"Step 2\", \"Step 3\"]\n" ++
  "\x7d\n" ++
  "\n" ++
  "Requirements:\n" ++
  "- \"notation\" must be a valid Big O notation (e.g., O(n), O(n²), O(log n), O(n log n), O(2ⁿ), etc.)\n" ++
  "- \"explanation\" should briefly explain why this complexity\n" ++
  "- \"steps\" should be an array of strings explaining the analysis\n" ++
  "\n" ++
  "Consider loop structures, recursive calls, data structure operations, divide-and-conquer patterns, and optimizations."

/-- The question about a snippet, which is put into it as it is. -/
def question (code : Text) : String :=
  questionStart ++ String.ofList code ++ questionEnd

end GrowthGauge.Assistant
