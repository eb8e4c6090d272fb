import GrowthGauge.Text.Case
import GrowthGauge.Verdict

namespace GrowthGauge

/-! ## The catalog

Snippets for teaching. Most of them carry a verdict of their own, which an
analysis of exactly that snippet gives instead of the decision table's. -/

structure CatalogEntry where
  name : String
  language : String
  description : String
  code : String
  verdict : Option Verdict
deriving Repr, DecidableEq

namespace Catalog

def snippet (lines : List String) : String :=
  "\n".intercalate lines

def linearSearchJavaScript : CatalogEntry where
  name := "Linear Search (JavaScript)"
  language := "JavaScript"
  description := "O(n) - Single loop through array"
  code := snippet
    ["function linearSearch(arr, target) \x7b",
     "  for (let i = 0; i < arr.length; i++) \x7b",
     "    if (arr[i] === target) \x7b",
     "      return i;",
     "    \x7d",
     "  \x7d",
     "  return -1;",
     "\x7d"]
  verdict := some
    { growth := .linear
      explanation := "Linear search scans the array once, checking each element at most one time."
      steps :=
        ["Single for-loop that iterates at most n times.",
         "Each iteration does constant work: one comparison and possibly a return.",
         "Total work grows linearly with the number of elements, so time complexity is O(n)."] }

def linearSearchPython : CatalogEntry where
  name := "Linear Search (Python)"
  language := "Python"
  description := "O(n) - Single loop through array"
  code := snippet
    ["def linear_search(arr, target):",
     "    for i in range(len(arr)):",
     "        if arr[i] == target:",
     "            return i",
     "    return -1"]
  verdict := some
    { growth := .linear
      explanation := "Linear search over a list performs one pass through all elements."
      steps :=
        ["The for-loop runs once for each element in the list (up to n iterations).",
         "Inside the loop there is only a constant-time equality check and return.",
         "Therefore, total time grows proportionally to n → O(n)."] }

def linearSearchJava : CatalogEntry where
  name := "Linear Search (Java)"
  language := "Java"
  description := "O(n) - Single loop through array"
  code := snippet
    ["public int linearSearch(int[] arr, int target) \x7b",
     "    for (int i = 0; i < arr.length; i++) \x7b",
     "        if (arr[i] == target) \x7b",
     "            return i;",
     "        \x7d",
     "    \x7d",
     "    return -1;",
     "\x7d"]
  verdict := some
    { growth := .linear
      explanation := "The Java linearSearch method scans the array once, checking each element at most one time."
      steps :=
        ["The for-loop runs from i = 0 to i < arr.length, so up to n iterations.",
         "Inside the loop, each iteration performs a single equality comparison and possibly returns.",
         "Work per iteration is constant, and total work scales linearly with n → O(n)."] }

def bubbleSortJavaScript : CatalogEntry where
  name := "Bubble Sort (JavaScript)"
  language := "JavaScript"
  description := "O(n²) - Nested loops"
  code := snippet
    ["function bubbleSort(arr) \x7b",
     "  for (let i = 0; i < arr.length; i++) \x7b",
     "    for (let j = 0; j < arr.length - i - 1; j++) \x7b",
     "      if (arr[j] > arr[j + 1]) \x7b",
     "        [arr[j], arr[j + 1]] = [arr[j + 1], arr[j]];",
     "      \x7d",
     "    \x7d",
     "  \x7d",
     "  return arr;",
     "\x7d"]
  verdict := some
    { growth := .quadratic
      explanation := "Bubble sort uses two nested loops, each up to n iterations."
      steps :=
        ["Outer loop runs n times in the worst case.",
         "Inner loop runs up to n times for each outer iteration.",
         "Total comparisons are on the order of n × n = n² → O(n²)."] }

def bubbleSortPython : CatalogEntry where
  name := "Bubble Sort (Python)"
  language := "Python"
  description := "O(n²) - Nested loops"
  code := snippet
    ["def bubble_sort(arr):",
     "    for i in range(len(arr)):",
     "        for j in range(len(arr) - i - 1):",
     "            if arr[j] > arr[j + 1]:",
     "                arr[j], arr[j + 1] = arr[j + 1], arr[j]",
     "    return arr"]
  verdict := none

def binarySearchJavaScript : CatalogEntry where
  name := "Binary Search (JavaScript)"
  language := "JavaScript"
  description := "O(log n) - Divide and conquer"
  code := snippet
    ["function binarySearch(arr, target) \x7b",
     "  let left = 0;",
     "  let right = arr.length - 1;",
     "",
     "  while (left <= right) \x7b",
     "    let mid = Math.floor((left + right) / 2);",
     "    if (arr[mid] === target) return mid;",
     "    if (arr[mid] < target) left = mid + 1;",
     "    else right = mid - 1;",
     "  \x7d",
     "  return -1;",
     "\x7d"]
  verdict := some
    { growth := .logarithmic
      explanation := "Binary search repeatedly halves the search interval."
      steps :=
        ["Each iteration computes a mid index and compares once.",
         "On each step, half of the remaining items are discarded.",
         "The interval size drops from n to 1 in log₂(n) steps → O(log n)."] }

def binarySearchPython : CatalogEntry where
  name := "Binary Search (Python)"
  language := "Python"
  description := "O(log n) - Divide and conquer"
  code := snippet
    ["def binary_search(arr, target):",
     "    left = 0",
     "    right = len(arr) - 1",
     "",
     "    while left <= right:",
     "        mid = (left + right) // 2",
     "        if arr[mid] == target:",
     "            return mid",
     "        if arr[mid] < target:",
     "            left = mid + 1",
     "        else:",
     "            right = mid - 1",
     "    return -1"]
  verdict := some
    { growth := .logarithmic
      explanation := "Binary search divides the search range by 2 each iteration."
      steps :=
        ["The while-loop continues while the interval [left, right] is non-empty.",
         "Each loop halves the interval by moving either left or right.",
         "Number of iterations is proportional to log₂(n) → O(log n)."] }

def fibonacciRecursivePython : CatalogEntry where
  name := "Fibonacci (Recursive - Python)"
  language := "Python"
  description := "O(2ⁿ) - Exponential recursion"
  code := snippet
    ["def fibonacci(n):",
     "    if n <= 1:",
     "        return n",
     "    return fibonacci(n - 1) + fibonacci(n - 2)"]
  verdict := some
    { growth := .exponential
      explanation := "Naive recursive Fibonacci expands into a binary recursion tree."
      steps :=
        ["Each call to fibonacci(n) makes two recursive calls (n-1 and n-2) until the base case.",
         "This forms a branching tree of calls where the number of nodes roughly doubles each level.",
         "Total number of calls grows exponentially with n → O(2ⁿ)."] }

def fibonacciRecursiveJava : CatalogEntry where
  name := "Fibonacci (Recursive - Java)"
  language := "Java"
  description := "O(2ⁿ) - Exponential recursion"
  code := snippet
    ["public int fibonacci(int n) \x7b",
     "    if (n <= 1) return n;",
     "    return fibonacci(n - 1) + fibonacci(n - 2);",
     "\x7d"]
  verdict := some
    { growth := .exponential
      explanation := "Each Fibonacci call branches into two smaller calls until the base case."
      steps :=
        ["For n > 1 the function calls itself twice: fibonacci(n-1) and fibonacci(n-2).",
         "The recursion tree has about 2ⁿ nodes in the worst case.",
         "Thus the time complexity is exponential → O(2ⁿ)."] }

def mergeSortPython : CatalogEntry where
  name := "Merge Sort (Python)"
  language := "Python"
  description := "O(n log n) - Divide and conquer"
  code := snippet
    ["def merge_sort(arr):",
     "    if len(arr) <= 1:",
     "        return arr",
     "",
     "    mid = len(arr) // 2",
     "    left = merge_sort(arr[:mid])",
     "    right = merge_sort(arr[mid:])",
     "",
     "    return merge(left, right)",
     "",
     "def merge(left, right):",
     "    result = []",
     "    i = j = 0",
     "",
     "    while i < len(left) and j < len(right):",
     "        if left[i] < right[j]:",
     "            result.append(left[i])",
     "            i += 1",
     "        else:",
     "            result.append(right[j])",
     "            j += 1",
     "",
     "    result.extend(left[i:])",
     "    result.extend(right[j:])",
     "    return result"]
  verdict := some
    { growth := .linearithmic
      explanation := "Merge sort repeatedly splits the array and merges sorted halves."
      steps :=
        ["The array is split in half recursively, giving log₂(n) levels of recursion.",
         "At each level, merge combines all elements with linear work O(n).",
         "Total time is O(n) work per level × log₂(n) levels → O(n log n)."] }

def nestedLoopsCpp : CatalogEntry where
  name := "Nested Loops (C++)"
  language := "C++"
  description := "O(n³) - Triple nested loops"
  code := snippet
    ["void tripleNested(int arr[], int n) \x7b",
     "    for (int i = 0; i < n; i++) \x7b",
     "        for (int j = 0; j < n; j++) \x7b",
     "            for (int k = 0; k < n; k++) \x7b",
     "                // Some operation",
     "                cout << arr[i] << arr[j] << arr[k];",
     "            \x7d",
     "        \x7d",
     "    \x7d",
     "\x7d"]
  verdict := some
    { growth := .cubic
      explanation := "Three nested loops each iterate up to n times."
      steps :=
        ["Outer loop over i runs n times.",
         "Middle loop over j runs n times for each i.",
         "Inner loop over k runs n times for each (i, j) pair → n × n × n = n³ iterations."] }

def matrixMultiplicationPython : CatalogEntry where
  name := "Matrix Multiplication (Python)"
  language := "Python"
  description := "O(n³) - Three nested loops"
  code := snippet
    ["def matrix_multiply(A, B):",
     "    result = []",
     "    for i in range(len(A)):",
     "        result.append([])",
     "        for j in range(len(B[0])):",
     "            result[i].append(0)",
     "            for k in range(len(B)):",
     "                result[i][j] += A[i][k] * B[k][j]",
     "    return result"]
  verdict := some
    { growth := .cubic
      explanation := "Classic cubic matrix multiplication uses three nested loops."
      steps :=
        ["Outer loop over i runs n times for n rows of the result.",
         "Middle loop over j runs n times for n columns of the result.",
         "Inner loop over k performs n multiplications/additions per (i, j) position.",
         "Total operations scale as n × n × n = n³ → O(n³)."] }

def entries : List CatalogEntry :=
  [linearSearchJavaScript, linearSearchPython, linearSearchJava, bubbleSortJavaScript,
    bubbleSortPython, binarySearchJavaScript, binarySearchPython, fibonacciRecursivePython,
    fibonacciRecursiveJava, mergeSortPython, nestedLoopsCpp, matrixMultiplicationPython]

/-! A language is asked for in any case and with blanks around it. -/

def isWanted (language : Text) (entry : CatalogEntry) : Bool :=
  Text.lowered entry.language.toList == language.strip.lowered

/-- The entries for one language. An absent or empty language and `all` ask for
every entry. -/
def list (language : Option Text) : List CatalogEntry :=
  match language with
  | none | some [] => entries
  | some language =>
      if language.strip.lowered == "all".toList then
        entries
      else
        entries.filter (isWanted language)

/-- An entry with its own verdict whose code a snippet repeats, blanks around it
aside. -/
def known? (code : Text) : Option (CatalogEntry × Verdict) :=
  entries.findSome? fun entry =>
    entry.verdict.bind fun verdict =>
      if Text.strip entry.code.toList == code.strip then some (entry, verdict) else none

end Catalog

end GrowthGauge
