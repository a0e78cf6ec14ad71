import Externalize.Text.Line

/-!
# `Externalize.Source.Accessor`: the class through which code reaches its strings

Code without a context of its own asks a generated class for its strings. The class goes into the
package of the code that asks, so its source begins with the package declaration of that code.
-/

set_option autoImplicit false

namespace Externalize.Accessor

/-- The name of the file that holds the class. -/
def fileName : Text := "ExtractedString.java".toList

/-- The lines of the class below the package declaration. -/
def classLines : List String :=
  ["",
    "import android.content.Context;",
    "",
    "/** A helper class for retrieving the extracted strings. */",
    "",
    "public final class ExtractedString \x7b",
    "",
    "    /** The Context used to look the strings up in the xml resources. */",
    "",
    "    private static Context mContext;",
    "",
    "    /**",
    "     * Store the context so every class can look strings up.",
    "     * Call this once from your Application or Activity onCreate.",
    "     * @param context      The \x7b@link Context\x7d to store.",
    "     */",
    "    public static void setContext(Context context) \x7b",
    "        mContext = context;",
    "    \x7d",
    "",
    "    /**",
    "     * Look an extracted string up.",
    "     * @param strResId the string id generated by the extractor.",
    "     * @return the extracted string if the \x7b@link Context\x7d is set. \"\" otherwise.",
    "     */",
    "    public static String getString(int strResId) \x7b",
    "        if (mContext != null) \x7b",
    "            return mContext.getResources().getString(strResId);",
    "        \x7d",
    "        return \"\";",
    "    \x7d",
    "\x7d"]

/-- The `classLines` with their line ends. -/
def classText : Text :=
  List.intercalate ['\r', '\n'] (classLines.map String.toList)

/-- Matches from `package ` to the next semicolon on the line. -/
def packageRule : Rule :=
  Text.enclosed "package ".toList [';']

/-- The source of the class for code with the given text: its first match of `packageRule`, if there is
one, and `classText`. -/
def source (text : Text) : Text :=
  match Text.hits packageRule text with
  | (_, declaration) :: _ => declaration ++ ['\r', '\n'] ++ classText
  | [] => classText

end Externalize.Accessor
