/-!
# The base class of generated Java commands

The file as it is shipped, line by line.
-/

namespace CommandForge.Support

/-- The lines of the base file. -/
def javaBase : List String := [
  "// This file is auto-generated. Do not edit manually.",
  "package generated.commands;",
  "",
  "import com.google.gson.Gson;",
  "import com.google.gson.GsonBuilder;",
  "import com.google.gson.JsonElement;",
  "import com.google.gson.JsonObject;",
  "import com.google.gson.JsonParseException;",
  "import com.google.gson.JsonParser;",
  "import com.google.gson.JsonPrimitive;",
  "import com.google.gson.annotations.SerializedName;",
  "import java.lang.reflect.Field;",
  "import java.lang.reflect.Modifier;",
  "import java.util.Locale;",
  "import java.util.Map;",
  "",
  "/**",
  " * Base class for generated commands.",
  " *",
  " * <p>Encoding writes \x7b@code command_name\x7d first and omits null optionals.",
  " * Decoding matches keys case-insensitively (an exactly lowercase key wins),",
  " * ignores unknown keys, treats null as absent and rejects mistyped values.",
  " */",
  "public abstract class Command \x7b",
  "    public static final String COMMAND_NAME_KEY = \"command_name\";",
  "",
  "    private static final Gson GSON = new Gson();",
  "    private static final Gson PRETTY_GSON = new GsonBuilder().setPrettyPrinting().create();",
  "",
  "    private final transient String commandName;",
  "",
  "    protected Command(String commandName) \x7b",
  "        this.commandName = commandName;",
  "    \x7d",
  "",
  "    public String getCommandName() \x7b",
  "        return commandName;",
  "    \x7d",
  "",
  "    public JsonObject toJsonObject() \x7b",
  "        JsonObject result = new JsonObject();",
  "        result.addProperty(COMMAND_NAME_KEY, commandName);",
  "        for (Map.Entry<String, JsonElement> entry : GSON.toJsonTree(this).getAsJsonObject().entrySet()) \x7b",
  "            result.add(entry.getKey(), entry.getValue());",
  "        \x7d",
  "        return result;",
  "    \x7d",
  "",
  "    public String toJson() \x7b",
  "        return GSON.toJson(toJsonObject());",
  "    \x7d",
  "",
  "    public String toJsonPretty() \x7b",
  "        return PRETTY_GSON.toJson(toJsonObject());",
  "    \x7d",
  "",
  "    protected static <T extends Command> T decode(String json, Class<T> type) \x7b",
  "        JsonElement root;",
  "        try \x7b",
  "            root = JsonParser.parseString(json);",
  "        \x7d catch (JsonParseException e) \x7b",
  "            throw new DecodeException(\"malformed JSON for \" + type.getSimpleName() + \": \" + e.getMessage(), e);",
  "        \x7d",
  "",
  "        if (root == null || !root.isJsonObject()) \x7b",
  "            throw new DecodeException(\"expected a JSON object for \" + type.getSimpleName());",
  "        \x7d",
  "",
  "        JsonObject folded = new JsonObject();",
  "        for (Map.Entry<String, JsonElement> entry : root.getAsJsonObject().entrySet()) \x7b",
  "            String key = entry.getKey();",
  "            String lower = key.toLowerCase(Locale.ROOT);",
  "            if (lower.equals(COMMAND_NAME_KEY) || entry.getValue().isJsonNull()) \x7b",
  "                continue;",
  "            \x7d",
  "            if (lower.equals(key) || !folded.has(lower)) \x7b",
  "                folded.add(lower, entry.getValue());",
  "            \x7d",
  "        \x7d",
  "",
  "        checkTypes(folded, type);",
  "",
  "        try \x7b",
  "            return GSON.fromJson(folded, type);",
  "        \x7d catch (JsonParseException e) \x7b",
  "            throw new DecodeException(\"invalid value for \" + type.getSimpleName() + \": \" + e.getMessage(), e);",
  "        \x7d",
  "    \x7d",
  "",
  "    // Gson coerces between strings, numbers and booleans; the contract does not.",
  "    private static void checkTypes(JsonObject folded, Class<?> type) \x7b",
  "        for (Field field : type.getDeclaredFields()) \x7b",
  "            int modifiers = field.getModifiers();",
  "            SerializedName name = field.getAnnotation(SerializedName.class);",
  "            if (Modifier.isStatic(modifiers) || Modifier.isTransient(modifiers) || name == null) \x7b",
  "                continue;",
  "            \x7d",
  "",
  "            JsonElement value = folded.get(name.value());",
  "            if (value == null) \x7b",
  "                continue;",
  "            \x7d",
  "",
  "            Class<?> fieldType = field.getType();",
  "            boolean matches;",
  "            if (fieldType == String.class) \x7b",
  "                matches = value.isJsonPrimitive() && value.getAsJsonPrimitive().isString();",
  "            \x7d else if (fieldType == boolean.class || fieldType == Boolean.class) \x7b",
  "                matches = value.isJsonPrimitive() && value.getAsJsonPrimitive().isBoolean();",
  "            \x7d else \x7b",
  "                matches = isInteger(value);",
  "            \x7d",
  "",
  "            if (!matches) \x7b",
  "                throw new DecodeException(",
  "                        \"field '\" + name.value() + \"' of \" + type.getSimpleName() + \" has unexpected value \" + value);",
  "            \x7d",
  "        \x7d",
  "    \x7d",
  "",
  "    private static boolean isInteger(JsonElement value) \x7b",
  "        if (!value.isJsonPrimitive()) \x7b",
  "            return false;",
  "        \x7d",
  "        JsonPrimitive primitive = value.getAsJsonPrimitive();",
  "        if (!primitive.isNumber()) \x7b",
  "            return false;",
  "        \x7d",
  "        try \x7b",
  "            primitive.getAsBigDecimal().longValueExact();",
  "            return true;",
  "        \x7d catch (ArithmeticException e) \x7b",
  "            return false;",
  "        \x7d",
  "    \x7d",
  "",
  "    /**",
  "     * Thrown when JSON text cannot be decoded into a command.",
  "     */",
  "    public static class DecodeException extends RuntimeException \x7b",
  "        public DecodeException(String message) \x7b",
  "            super(message);",
  "        \x7d",
  "",
  "        public DecodeException(String message, Throwable cause) \x7b",
  "            super(message, cause);",
  "        \x7d",
  "    \x7d",
  "\x7d"]

end CommandForge.Support
