/-!
# The example battery

Snippets of known languages that show at a glance whether a classifier works.
-/

namespace Polyglot
namespace Battery

structure Example where
  name : String
  expected : String
  code : String
  deriving DecidableEq

/--
The snippets of the battery.  The language of the last one does not occur in the
demonstration corpus, so that a classifier trained on that corpus misses it.
-/
def examples : List Example :=
  [⟨"Python Example", "python",
      "def factorial(n):\n    if n == 0:\n        return 1\n    return n * factorial(n-1)"⟩,
    ⟨"JavaScript Example", "javascript",
      "const fetchData = async () => \x7b\n    const response = await fetch(url);\n" ++
        "    return response.json();\n\x7d;"⟩,
    ⟨"Java Example", "java",
      "public class Calculator \x7b\n    public int add(int a, int b) \x7b\n" ++
        "        return a + b;\n    \x7d\n\x7d"⟩,
    ⟨"C++ Example", "cpp",
      "#include <iostream>\nint main() \x7b\n    std::cout << \"Hello\" << std::endl;\n" ++
        "    return 0;\n\x7d"⟩,
    ⟨"C# Example", "csharp",
      "public async Task<string> GetDataAsync() \x7b\n" ++
        "    var result = await FetchDataAsync();\n    return result;\n\x7d"⟩]

structure Outcome where
  name : String
  expected : String
  predicted : String
  deriving DecidableEq

def Outcome.correct (o : Outcome) : Bool :=
  o.expected = o.predicted

def score (outcomes : List Outcome) : Nat :=
  outcomes.countP Outcome.correct

end Battery
end Polyglot
