/-!
# The base class of generated C# commands

The file as it is shipped, line by line.
-/

namespace CommandForge.Support

/-- The lines of the base file. -/
def cSharpBase : List String := [
  "// This file is auto-generated. Do not edit manually.",
  "#nullable enable",
  "",
  "using System;",
  "using System.Text.Json;",
  "using System.Text.Json.Nodes;",
  "using System.Text.Json.Serialization;",
  "",
  "namespace GeneratedCommands",
  "\x7b",
  "    /// <summary>",
  "    /// Thrown when JSON text cannot be decoded into a command.",
  "    /// </summary>",
  "    public class DecodeException : Exception",
  "    \x7b",
  "        public DecodeException(string message, Exception? inner = null)",
  "            : base(message, inner)",
  "        \x7b",
  "        \x7d",
  "    \x7d",
  "",
  "    /// <summary>",
  "    /// Base class for generated commands.",
  "    /// </summary>",
  "    /// <remarks>",
  "    /// Encoding writes \"command_name\" first and omits null optionals. Decoding",
  "    /// matches keys case-insensitively (an exactly lowercase key wins), ignores",
  "    /// unknown keys and treats null as absent.",
  "    /// </remarks>",
  "    public abstract class Command",
  "    \x7b",
  "        public const string CommandNameKey = \"command_name\";",
  "",
  "        private static readonly JsonSerializerOptions CompactOptions = new()",
  "        \x7b",
  "            DefaultIgnoreCondition = JsonIgnoreCondition.WhenWritingNull,",
  "        \x7d;",
  "",
  "        private static readonly JsonSerializerOptions IndentedOptions = new()",
  "        \x7b",
  "            DefaultIgnoreCondition = JsonIgnoreCondition.WhenWritingNull,",
  "            WriteIndented = true,",
  "        \x7d;",
  "",
  "        protected Command(string commandName)",
  "        \x7b",
  "            CommandName = commandName;",
  "        \x7d",
  "",
  "        [JsonPropertyName(CommandNameKey)]",
  "        [JsonPropertyOrder(-1)]",
  "        public string CommandName \x7b get; \x7d",
  "",
  "        public string ToJson(bool indented = false)",
  "        \x7b",
  "            return JsonSerializer.Serialize(this, GetType(), indented ? IndentedOptions : CompactOptions);",
  "        \x7d",
  "",
  "        public static T FromJson<T>(string json) where T : Command, new()",
  "        \x7b",
  "            JsonNode? root;",
  "            try",
  "            \x7b",
  "                root = JsonNode.Parse(json);",
  "            \x7d",
  "            catch (JsonException e)",
  "            \x7b",
  "                throw new DecodeException($\"malformed JSON for \x7btypeof(T).Name\x7d: \x7be.Message\x7d\", e);",
  "            \x7d",
  "",
  "            if (root is not JsonObject source)",
  "            \x7b",
  "                throw new DecodeException($\"expected a JSON object for \x7btypeof(T).Name\x7d\");",
  "            \x7d",
  "",
  "            var folded = new JsonObject();",
  "            foreach (var (key, value) in source)",
  "            \x7b",
  "                var lower = key.ToLowerInvariant();",
  "                if (lower == CommandNameKey || value is null)",
  "                \x7b",
  "                    continue;",
  "                \x7d",
  "                if (lower == key || !folded.ContainsKey(lower))",
  "                \x7b",
  "                    folded[lower] = value.DeepClone();",
  "                \x7d",
  "            \x7d",
  "",
  "            try",
  "            \x7b",
  "                return folded.Deserialize<T>() ?? new T();",
  "            \x7d",
  "            catch (Exception e) when (e is JsonException || e is InvalidOperationException)",
  "            \x7b",
  "                throw new DecodeException($\"invalid value for \x7btypeof(T).Name\x7d: \x7be.Message\x7d\", e);",
  "            \x7d",
  "        \x7d",
  "    \x7d",
  "\x7d"]

end CommandForge.Support
